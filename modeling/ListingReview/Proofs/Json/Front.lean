import ListingReview.Proofs.Json.Record

/-! # JSON: the front of a text

What a text starts with can settle that it will be refused, whatever follows. A front leads from one
reader into another (`Leads`) if all that goes wrong in the inner reader behind it goes wrong in the
outer one, for the same cause, or else the front itself is refused already. Fronts that lead on from
each other are joined (`Leads.trans`).

* `items_lead`: from a list to one of its items, behind others.
* `readAll_begun`: from an object to one of its keys; what was found before it is known then.
* `Layout.Reaches.leads`: from a record to the value of a field, in an object or in a list.
* `Layout.Reaches.item_lead`: on from there into an object among the items of that value. -/

namespace ListingReview.Json

open Text (Octets octets)

/-- Parts, each with a comma behind it, and blanks. -/
inductive Begun : List Octets → Octets → Prop where
  | nil {blanks : Octets} (h : Blanks blanks) : Begun [] blanks
  | cons {blanks blanks' part text : Octets} {parts : List Octets} (h : Blanks blanks)
    (h' : Blanks blanks') (hrest : Begun parts text) :
    Begun (part :: parts) (blanks ++ (part ++ (blanks' ++ octet ',' :: text)))

theorem ends_comma {blanks : Octets} (h : Blanks blanks) (rest : Octets) :
    Ends (blanks ++ octet ',' :: rest) :=
  (Ends.mark (by decide) rest).blanks_append h

/-! ### Fronts -/

section Leads

variable {α β γ : Type}

/-- Whatever follows the front is refused. -/
def Refused (outer : Octets → Except Fault α) (front : Octets) : Prop :=
  ∀ rest, ∃ fault, outer (front ++ rest) = .error fault

/-- The front is refused, or what is refused behind it by the inner reader is refused by the outer
one, for the same cause. -/
def Leads (outer : Octets → Except Fault α) (inner : Octets → Except Fault β) (front : Octets) :
    Prop :=
  Refused outer front ∨ ∀ rest fault, inner rest = .error fault →
    ∃ path, outer (front ++ rest) = .error ⟨path, fault.cause⟩

variable {outer : Octets → Except Fault α} {middle : Octets → Except Fault β}
  {inner : Octets → Except Fault γ} {front front' : Octets}

theorem Leads.trans (h : Leads outer middle front) (h' : Leads middle inner front') :
    Leads outer inner (front ++ front') := by
  rcases h with h | h
  · refine .inl fun rest => ?_
    rw [List.append_assoc]
    exact h (front' ++ rest)
  · rcases h' with h' | h'
    · refine .inl fun rest => ?_
      obtain ⟨fault, hfault⟩ := h' rest
      obtain ⟨path, hpath⟩ := h _ fault hfault
      rw [List.append_assoc]
      exact ⟨_, hpath⟩
    · refine .inr fun rest fault hfault => ?_
      obtain ⟨path, hpath⟩ := h' rest fault hfault
      rw [List.append_assoc]
      exact h _ ⟨path, fault.cause⟩ hpath

theorem Leads.of_eq {inner : Octets → Except Fault α}
    (h : ∀ rest, outer (front ++ rest) = inner rest) : Leads outer inner front :=
  .inr fun rest fault hfault => ⟨fault.path, (h rest).trans hfault⟩

end Leads

/-! ### Items of a list -/

section Items

variable {α : Type} {item : Reader α} {form : α → Octets → Prop}

theorem itemsFrom_error {before : List α} {bytes : Octets} {fault : Fault}
    (h : item.read bytes = .error fault) :
    item.itemsFrom before bytes = .error (fault.under (.index before.length)) := by
  rw [itemsFrom_eq, h]

theorem itemsFrom_read (h : item.Reads form) {part rest : Octets} {value : α} {before : List α}
    (hvalue : form value part) (hrest : Ends rest) :
    item.itemsFrom before (part ++ rest) = behindItem item (value :: before) rest := by
  rw [itemsFrom_eq, (h.read_iff (h.wellFormed hvalue) hrest).mpr ⟨hvalue, rfl⟩]

theorem itemsFrom_refused (h : item.Reads form) {part rest : Octets} {before : List α}
    (hpart : WellFormed part) (hnone : ∀ value, ¬ form value part) (hrest : Ends rest) :
    ∃ fault, item.itemsFrom before (part ++ rest) = .error fault := by
  cases hread : item.read (part ++ rest) with
  | error fault => exact ⟨_, itemsFrom_error hread⟩
  | ok found => exact absurd ((h.read_iff hpart hrest).mp hread).1 (hnone found.1)

/-- The front has been refused, or the items in front of the rest have been read. -/
def ToItem (item : Reader α) (read : Octets → Except Fault (List α × Octets)) : Prop :=
  (∀ rest, ∃ fault, read rest = .error fault) ∨
    ∃ before, ∀ rest, Starts rest → read rest = item.itemsFrom before rest

/-- An item, and on from the comma behind it. -/
theorem itemsFrom_begun (h : item.Reads form) {part text blanks : Octets} (hpart : WellFormed part)
    (hblanks : Blanks blanks) (hmore : ∀ before, ToItem item fun rest =>
      behindItem item before (blanks ++ octet ',' :: (text ++ rest))) (before : List α) :
    ToItem item fun rest =>
      item.itemsFrom before (part ++ (blanks ++ octet ',' :: (text ++ rest))) := by
  by_cases hvalue : ∃ value, form value part
  · obtain ⟨value, hvalue⟩ := hvalue
    simp only [itemsFrom_read h hvalue (ends_comma hblanks _)]
    exact hmore _
  · exact .inl fun rest => itemsFrom_refused h hpart (not_exists.mp hvalue) (ends_comma hblanks _)

theorem behindItem_begun (h : item.Reads form) {parts : List Octets} {text : Octets}
    (hbegun : Begun parts text) (hparts : ∀ part ∈ parts, WellFormed part) (before : List α)
    {blanks : Octets} (hblanks : Blanks blanks) :
    ToItem item fun rest => behindItem item before (blanks ++ octet ',' :: (text ++ rest)) := by
  induction hbegun generalizing before blanks with
  | nil hblanks' =>
    refine .inr ⟨before, fun rest hrest => ?_⟩
    have hread := behindItem_comma item before hblanks hblanks' hrest []
    rwa [List.append_nil] at hread
  | @cons blanks₁ blanks₂ part text parts hblanks₁ hblanks₂ hrest ih =>
    have hpart := hparts part List.mem_cons_self
    have hread : ∀ rest, behindItem item before (blanks ++ octet ',' ::
        ((blanks₁ ++ (part ++ (blanks₂ ++ octet ',' :: text))) ++ rest)) =
          item.itemsFrom before (part ++ (blanks₂ ++ octet ',' :: (text ++ rest))) := by
      intro rest
      rw [← behindItem_comma item before hblanks hblanks₁ hpart.starts]
      simp only [List.append_assoc, List.cons_append]
    simp only [hread]
    exact itemsFrom_begun h hpart hblanks₂ (fun before =>
      ih (fun p hp => hparts p (List.mem_cons_of_mem part hp)) before hblanks₂) before

theorem readItems_begun (h : item.Reads form) {parts : List Octets} {text : Octets}
    (hbegun : Begun parts text) (hparts : ∀ part ∈ parts, WellFormed part) :
    ToItem item fun rest => item.readItems (text ++ rest) := by
  rcases hbegun with hblanks | @⟨blanks, blanks', part, text, parts, hblanks, hblanks', hrest⟩
  · refine .inr ⟨[], fun rest hrest => ?_⟩
    have hfirst := firstItem_part (hrest.skipBlanks_append hblanks []) hrest
    rw [List.append_nil] at hfirst
    simp only [Reader.readItems, hfirst]
  · have hpart := hparts part List.mem_cons_self
    have hread : ∀ rest, item.readItems
        ((blanks ++ (part ++ (blanks' ++ octet ',' :: text))) ++ rest) =
          item.itemsFrom [] (part ++ (blanks' ++ octet ',' :: (text ++ rest))) := by
      intro rest
      have hfirst := firstItem_part (hpart.starts.skipBlanks_append hblanks
        (blanks' ++ octet ',' :: (text ++ rest))) hpart.starts
      simp only [Reader.readItems, List.append_assoc, List.cons_append, hfirst]
    simp only [hread]
    exact itemsFrom_begun h hpart hblanks' (fun before => behindItem_begun h hrest
      (fun p hp => hparts p (List.mem_cons_of_mem part hp)) before hblanks') []

theorem items_lead (h : item.Reads form) {b : UInt8} (hb : StartsValue b) {parts : List Octets}
    {text : Octets} (hbegun : Begun parts text) (hparts : ∀ part ∈ parts, WellFormed part) :
    Leads item.readItems (fun rest => item.read (b :: rest)) (text ++ [b]) := by
  rcases readItems_begun h hbegun hparts with hrefused | ⟨before, hread⟩
  · refine .inl fun rest => ?_
    rw [List.append_assoc]
    exact hrefused ([b] ++ rest)
  · refine .inr fun rest fault hfault => ?_
    rw [List.append_assoc]
    exact ⟨_, (hread ([b] ++ rest) ⟨b, rest, rfl, hb⟩).trans (itemsFrom_error hfault)⟩

theorem map_error {β : Type} {f : α → β} {bytes : Octets} {fault : Fault}
    (h : item.read bytes = .error fault) : (item.map f).read bytes = .error fault := by
  simp only [Reader.map, h]

theorem optionalList_error {rest : Octets} {fault : Fault}
    (h : item.readItems rest = .error fault) :
    item.list.optional.read (octet '[' :: rest) = .error fault := by
  have hskip : skipBlanks (octet '[' :: rest) = octet '[' :: rest :=
    skipBlanks_cons (by decide) rest
  have hlist : item.list.read (octet '[' :: rest) = .error fault := by
    rw [list_read hskip, h]
  simp only [Reader.optional, hskip]
  exact (if_neg (by decide)).trans (map_error hlist)

end Items

/-! ### Entries of an object -/

namespace Layout

open Shape (Partial)

variable {σ : Type} {layout : Layout σ}

variable (layout) in
/-- The front has been refused, or the entries in front of the rest have been taken. -/
def ToKey (found : Partial σ) (entries : List Entry)
    (read : Octets → Except Fault (Partial σ × Octets)) : Prop :=
  (∀ rest, ∃ fault, read rest = .error fault) ∨ ∃ found', layout.TakesAll found entries found' ∧
    ∀ rest, read (octet '"' :: rest) = layout.shape.readEntries found' rest

theorem readEntries_begun {entry : Entry} {entries : List Entry} {text blanks : Octets}
    (hproper : entry.Proper) (hblanks : Blanks blanks)
    (hmore : ∀ found, layout.ToKey found entries fun rest =>
      behindEntry layout.shape found (blanks ++ octet ',' :: (text ++ rest)))
    (found : Partial σ) : layout.ToKey found (entry :: entries) fun rest =>
      layout.shape.readEntries found (entry.body ++ (blanks ++ octet ',' :: (text ++ rest))) := by
  by_cases htakes : ∃ found', layout.Takes found entry found'
  · obtain ⟨found', htakes⟩ := htakes
    simp only [readEntries_takes hproper (ends_comma hblanks _) htakes]
    rcases hmore found' with hrefused | ⟨found'', hall, hread⟩
    · exact .inl hrefused
    · exact .inr ⟨found'', .cons htakes hall, hread⟩
  · exact .inl fun rest =>
      readEntries_refused hproper (ends_comma hblanks _) (not_exists.mp htakes)

theorem behindEntry_begun {entries : List Entry} {text : Octets}
    (hbegun : Begun (entries.map Entry.text) text) (hproper : ∀ entry ∈ entries, entry.Proper)
    (found : Partial σ) {blanks : Octets} (hblanks : Blanks blanks) :
    layout.ToKey found entries fun rest =>
      behindEntry layout.shape found (blanks ++ octet ',' :: (text ++ rest)) := by
  generalize hparts : entries.map Entry.text = parts at hbegun
  induction hbegun generalizing entries found blanks with
  | nil hblanks' =>
    obtain rfl := List.map_eq_nil_iff.mp hparts
    refine .inr ⟨found, .nil, fun rest => ?_⟩
    simp only [behindEntry, nextMember_comma (skipBlanks_mark hblanks (by decide) _)
      (skipBlanks_mark hblanks' (by decide) rest)]
  | @cons blanks₁ blanks₂ part text parts hblanks₁ hblanks₂ hrest ih =>
    obtain ⟨entry, entries', rfl, rfl, rfl⟩ := List.map_eq_cons_iff.mp hparts
    have hread : ∀ rest, behindEntry layout.shape found (blanks ++ octet ',' ::
        ((blanks₁ ++ (entry.text ++ (blanks₂ ++ octet ',' :: text))) ++ rest)) =
          layout.shape.readEntries found
            (entry.body ++ (blanks₂ ++ octet ',' :: (text ++ rest))) := by
      intro rest
      rw [← behindEntry_comma layout.shape hblanks hblanks₁]
      simp only [List.append_assoc, List.cons_append]
    simp only [hread]
    exact readEntries_begun (hproper entry List.mem_cons_self) hblanks₂ (fun found =>
      ih (fun e he => hproper e (List.mem_cons_of_mem entry he)) found hblanks₂ rfl) found

theorem readAll_begun {entries : List Entry} {text : Octets}
    (hbegun : Begun (entries.map Entry.text) text) (hproper : ∀ entry ∈ entries, entry.Proper) :
    layout.ToKey ⟨layout.shape.blank, []⟩ entries fun rest =>
      readAll layout.shape (text ++ rest) := by
  generalize hparts : entries.map Entry.text = parts at hbegun
  rcases hbegun with hblanks | @⟨blanks, blanks', part, text, parts, hblanks, hblanks', hrest⟩
  · obtain rfl := List.map_eq_nil_iff.mp hparts
    refine .inr ⟨_, .nil, fun rest => ?_⟩
    simp only [readAll, firstMember_quote (skipBlanks_mark hblanks (by decide) rest)]
  · obtain ⟨entry, entries', rfl, rfl, rfl⟩ := List.map_eq_cons_iff.mp hparts
    have hread : ∀ rest, readAll layout.shape
        ((blanks ++ (entry.text ++ (blanks' ++ octet ',' :: text))) ++ rest) =
          layout.shape.readEntries ⟨layout.shape.blank, []⟩
            (entry.body ++ (blanks' ++ octet ',' :: (text ++ rest))) := by
      intro rest
      have hquote := skipBlanks_entry hblanks entry (blanks' ++ octet ',' :: (text ++ rest))
      simp only [readAll, List.append_assoc, List.cons_append, firstMember_quote hquote]
    simp only [hread]
    exact readEntries_begun (hproper entry List.mem_cons_self) hblanks' (fun found =>
      behindEntry_begun hrest (fun e he => hproper e (List.mem_cons_of_mem entry he)) found
        hblanks') _

theorem readObject_begun {entries : List Entry} {text : Octets}
    (hbegun : Begun (entries.map Entry.text) text) (hproper : ∀ entry ∈ entries, entry.Proper) :
    Refused layout.shape.readObject text ∨
      ∃ found, layout.TakesAll ⟨layout.shape.blank, []⟩ entries found ∧
        ∀ rest fault, layout.shape.readEntries found rest = .error fault →
          layout.shape.readObject (text ++ octet '"' :: rest) = .error fault := by
  have herror : ∀ {bytes fault}, readAll layout.shape bytes = .error fault →
      layout.shape.readObject bytes = .error fault := fun h => by
    rw [readObject_eq, h]
  have hkey : layout.ToKey ⟨layout.shape.blank, []⟩ entries fun rest =>
      readAll layout.shape (text ++ rest) := readAll_begun hbegun hproper
  rcases hkey with hrefused | ⟨found, hall, hread⟩
  · refine .inl fun rest => ?_
    obtain ⟨fault, hfault⟩ := hrefused rest
    exact ⟨fault, herror hfault⟩
  · exact .inr ⟨found, hall, fun rest fault hfault => herror ((hread rest).trans hfault)⟩

/-- What goes wrong behind a key that is a name of a field. -/
theorem readEntries_key {field : Field σ} (h : field ∈ layout.fields) {key : Octets}
    (hname : field.Names key) (found : Partial σ) (rest : Octets) :
    ∃ name, ∀ {fault}, Shape.readMember field.member name found rest = .error fault →
      layout.shape.readEntries found (key ++ octet '"' :: rest) = .error fault := by
  obtain ⟨name, hmem, hspells⟩ := hname
  refine ⟨name, fun hmember => ?_⟩
  have htext : readText (key ++ octet '"' :: rest) = .ok (name, rest) :=
    readText_iff.mpr ⟨key, hspells, rfl⟩
  simp only [readEntries_eq, Shape.readEntry, htext, find?_name h hmem, hmember]

/-- **A field that has been found is not read again.** -/
theorem readEntries_seen {field : Field σ} (h : field ∈ layout.fields) {key : Octets}
    (hname : field.Names key) {found : Partial σ} (hseen : field.name ∈ found.seen)
    (rest : Octets) : layout.shape.readEntries found (key ++ octet '"' :: rest) =
      .error (Cause.duplicate field.name).here := by
  obtain ⟨name, hread⟩ := readEntries_key h hname found rest
  exact hread (readMember_seen (show field.member.name ∈ found.seen from hseen) name rest)

theorem key_lead {field : Field σ} (h : field ∈ layout.fields) {key blanks : Octets}
    (hname : field.Names key) (hblanks : Blanks blanks) (found : Partial σ) :
    Leads (layout.shape.readEntries found) field.member.reader.read
      (key ++ octet '"' :: (blanks ++ [octet ':'])) := by
  by_cases hseen : field.name ∈ found.seen
  · refine .inl fun rest => ⟨(Cause.duplicate field.name).here, ?_⟩
    rw [List.append_assoc, List.cons_append]
    exact readEntries_seen h hname hseen _
  · refine .inr fun rest fault hfault => ?_
    have hcolon : readColon ((blanks ++ [octet ':']) ++ rest) = .ok rest :=
      readColon_iff.mpr (skipBlanks_last hblanks (by decide) rest)
    obtain ⟨name, hread⟩ := readEntries_key h hname found ((blanks ++ [octet ':']) ++ rest)
    refine ⟨.key name :: fault.path, ?_⟩
    rw [List.append_assoc, List.cons_append]
    exact hread
      (readMember_error (show field.member.name ∉ found.seen from hseen) name hcolon hfault)

/-- From an object to the value of a field. -/
theorem entry_lead {entries : List Entry} {text : Octets}
    (hbegun : Begun (entries.map Entry.text) text) (hproper : ∀ entry ∈ entries, entry.Proper)
    {field : Field σ} (h : field ∈ layout.fields) {key blanks : Octets}
    (hname : field.Names key) (hblanks : Blanks blanks) :
    Leads layout.shape.readObject field.member.reader.read
      ((text ++ [octet '"']) ++ (key ++ octet '"' :: (blanks ++ [octet ':']))) := by
  have hobject : Refused layout.shape.readObject text ∨ _ := readObject_begun hbegun hproper
  rcases hobject with hrefused | ⟨found, -, hread⟩
  · refine .inl fun rest => ?_
    rw [List.append_assoc, List.append_assoc]
    exact hrefused _
  · have hquote : Leads layout.shape.readObject (layout.shape.readEntries found)
        (text ++ [octet '"']) := by
      refine .inr fun rest fault hfault => ⟨fault.path, ?_⟩
      rw [List.append_assoc]
      exact hread rest fault hfault
    exact hquote.trans (key_lead h hname hblanks found)

/-! ### Places of a list -/

section Places

variable {field : Field σ} {done after : List (Field σ)} {b : UInt8}

/-- The front has been refused, or a value of the field is read in front of the rest. -/
def ToValue (field : Field σ) (read : Octets → Except Fault (σ × Octets)) : Prop :=
  (∀ rest, ∃ fault, read rest = .error fault) ∨ ∀ rest fault, Starts rest →
    field.member.reader.read rest = .error fault → ∃ path, read rest = .error ⟨path, fault.cause⟩

theorem atPlace_error {shape : Shape σ} {index : Nat} {record : σ} {member : Member σ}
    {members : List (Member σ)} {bytes : Octets} {fault : Fault}
    (h : member.reader.read bytes = .error fault) :
    atPlace shape index record member members bytes = .error (fault.under (.index index)) := by
  rw [atPlace, h]

theorem atPlace_begun {field' : Field σ} (h : field' ∈ layout.fields) {part text blanks : Octets}
    (hpart : WellFormed part) (hblanks : Blanks blanks) {index : Nat} {members : List (Member σ)}
    (hmore : ∀ found, ToValue field fun rest => layout.shape.readPlaces (index + 1) found
      (blanks ++ octet ',' :: (text ++ rest)) members) (found : σ) :
    ToValue field fun rest => atPlace layout.shape index found field'.member members
      (part ++ (blanks ++ octet ',' :: (text ++ rest))) := by
  have hread := layout.reads field' h
  -- a part that is not written for the field is refused here, whatever follows
  by_cases hvalue : ∃ value, field'.form value part
  · obtain ⟨value, hform⟩ := hvalue
    have hput : ∀ rest, field'.member.reader.read (part ++ (blanks ++ octet ',' :: rest)) =
        .ok (field'.put value, blanks ++ octet ',' :: rest) := fun rest =>
      (member_read_iff h .nil hpart (ends_comma hblanks rest)).mpr ⟨⟨value, hform, rfl⟩, rfl⟩
    simp only [atPlace, hput]
    exact hmore _
  · refine .inl fun rest => ?_
    cases hfound : atPlace layout.shape index found field'.member members
        (part ++ (blanks ++ octet ',' :: (text ++ rest))) with
    | error fault => exact ⟨fault, hfound⟩
    | ok next =>
      obtain ⟨value, hform, -⟩ := (atPlace_iff h hpart (ends_comma hblanks _)).mp hfound
      exact absurd ⟨value, hform⟩ hvalue

theorem behindPlace_begun {parts : List Octets} {text : Octets} (hbegun : Begun parts text)
    (hparts : ∀ part ∈ parts, WellFormed part) (hdone : ∀ field ∈ done, field ∈ layout.fields)
    (hlength : done.length = parts.length) (index : Nat) (found : σ) {blanks : Octets}
    (hblanks : Blanks blanks) : ToValue field fun rest =>
      layout.shape.readPlaces (index + 1) found (blanks ++ octet ',' :: (text ++ rest))
        ((done ++ field :: after).map Field.member) := by
  induction hbegun generalizing done index found blanks with
  | nil hblanks' =>
    obtain rfl := List.eq_nil_of_length_eq_zero hlength
    refine .inr fun rest fault hrest hfault => ?_
    have hnext := nextItem_comma (skipBlanks_mark hblanks (by decide) _)
      (hrest.skipBlanks_append hblanks' []) hrest
    rw [List.append_nil] at hnext
    refine ⟨.index (index + 1) :: fault.path, ?_⟩
    simp only [List.nil_append, List.map_cons]
    rw [readPlaces_part (by rw [if_neg (Nat.succ_ne_zero index), hnext])]
    exact atPlace_error hfault
  | @cons blanks₁ blanks₂ part text parts hblanks₁ hblanks₂ hrest ih =>
    obtain ⟨field', done', rfl⟩ := List.exists_cons_of_length_eq_add_one hlength
    have hpart := hparts part List.mem_cons_self
    have hread : ∀ rest, layout.shape.readPlaces (index + 1) found (blanks ++ octet ',' ::
        ((blanks₁ ++ (part ++ (blanks₂ ++ octet ',' :: text))) ++ rest))
          ((field' :: done' ++ field :: after).map Field.member) =
        atPlace layout.shape (index + 1) found field'.member
          ((done' ++ field :: after).map Field.member)
            (part ++ (blanks₂ ++ octet ',' :: (text ++ rest))) := by
      intro rest
      have hnext := nextItem_comma (skipBlanks_mark hblanks (b := octet ',') (by decide) _)
        (hpart.starts.skipBlanks_append hblanks₁ (blanks₂ ++ octet ',' :: (text ++ rest)))
        hpart.starts
      simp only [List.append_assoc, List.cons_append, List.map_cons]
      exact readPlaces_part (by rw [if_neg (Nat.succ_ne_zero index), hnext])
    simp only [hread]
    exact atPlace_begun (hdone field' List.mem_cons_self) hpart hblanks₂ (fun found =>
      ih (fun p hp => hparts p (List.mem_cons_of_mem part hp))
        (fun f hf => hdone f (List.mem_cons_of_mem field' hf)) (Nat.succ.inj hlength) (index + 1)
        found hblanks₂) found

theorem readPlaces_begun {parts : List Octets} {text : Octets} (hbegun : Begun parts text)
    (hparts : ∀ part ∈ parts, WellFormed part) (hdone : ∀ field ∈ done, field ∈ layout.fields)
    (hlength : done.length = parts.length) (found : σ) :
    ToValue field fun rest => layout.shape.readPlaces 0 found (text ++ rest)
      ((done ++ field :: after).map Field.member) := by
  rcases hbegun with hblanks | @⟨blanks, blanks', part, text, parts, hblanks, hblanks', hrest⟩
  · obtain rfl := List.eq_nil_of_length_eq_zero hlength
    refine .inr fun rest fault hrest hfault => ?_
    have hfirst := firstItem_part (hrest.skipBlanks_append hblanks []) hrest
    rw [List.append_nil] at hfirst
    refine ⟨.index 0 :: fault.path, ?_⟩
    simp only [List.nil_append, List.map_cons]
    rw [readPlaces_part (by rw [if_pos rfl, hfirst])]
    exact atPlace_error hfault
  · obtain ⟨field', done', rfl⟩ := List.exists_cons_of_length_eq_add_one hlength
    have hpart := hparts part List.mem_cons_self
    have hread : ∀ rest, layout.shape.readPlaces 0 found
        ((blanks ++ (part ++ (blanks' ++ octet ',' :: text))) ++ rest)
          ((field' :: done' ++ field :: after).map Field.member) =
        atPlace layout.shape 0 found field'.member ((done' ++ field :: after).map Field.member)
          (part ++ (blanks' ++ octet ',' :: (text ++ rest))) := by
      intro rest
      have hfirst := firstItem_part (hpart.starts.skipBlanks_append hblanks
        (blanks' ++ octet ',' :: (text ++ rest))) hpart.starts
      simp only [List.append_assoc, List.cons_append, List.map_cons]
      exact readPlaces_part (by rw [if_pos rfl, hfirst])
    simp only [hread]
    exact atPlace_begun (hdone field' List.mem_cons_self) hpart hblanks' (fun found =>
      behindPlace_begun hrest (fun p hp => hparts p (List.mem_cons_of_mem part hp))
        (fun f hf => hdone f (List.mem_cons_of_mem field' hf)) (Nat.succ.inj hlength) 0 found
        hblanks') found

/-- From a list to the value of a field. -/
theorem place_lead {parts : List Octets} {text : Octets} (hbegun : Begun parts text)
    (hparts : ∀ part ∈ parts, WellFormed part)
    (hplace : layout.fields[parts.length]? = some field) (hb : StartsValue b) :
    Leads (fun bytes => layout.shape.readPlaces 0 layout.shape.blank bytes layout.shape.members)
      (fun rest => field.member.reader.read (b :: rest)) (text ++ [b]) := by
  obtain ⟨hlt, hfield⟩ := List.getElem?_eq_some_iff.mp hplace
  have hfields : layout.fields.take parts.length ++ field ::
      layout.fields.drop (parts.length + 1) = layout.fields := by
    rw [← hfield, List.getElem_cons_drop, List.take_append_drop]
  have hvalue : ToValue field fun rest =>
      layout.shape.readPlaces 0 layout.shape.blank (text ++ rest)
        ((layout.fields.take parts.length ++ field ::
          layout.fields.drop (parts.length + 1)).map Field.member) :=
    readPlaces_begun hbegun hparts (fun _ hf => List.mem_of_mem_take hf)
      (by rw [List.length_take]; omega) layout.shape.blank
  rw [hfields, ← layout.members_eq] at hvalue
  rcases hvalue with hrefused | hvalue
  · refine .inl fun rest => ?_
    rw [List.append_assoc]
    exact hrefused ([b] ++ rest)
  · refine .inr fun rest fault hfault => ?_
    rw [List.append_assoc]
    exact hvalue ([b] ++ rest) fault ⟨b, rest, rfl, hb⟩ hfault

end Places

/-! ### Values of fields -/

variable (layout) in
/-- A front behind which the value of a field stands, in an object or in a list. -/
inductive Reaches (field : Field σ) : Octets → Prop where
  | entry {blanks text key before after : Octets} {entries : List Entry} (hblanks : Blanks blanks)
    (hbegun : Begun (entries.map Entry.text) text) (hproper : ∀ entry ∈ entries, entry.Proper)
    (hname : field.Names key) (hbefore : Blanks before) (hafter : Blanks after) :
    Reaches field (blanks ++ octet '\x7b' :: (text ++ octet '"' ::
      (key ++ octet '"' :: (before ++ octet ':' :: after))))
  | place {blanks text : Octets} {parts : List Octets} (hblanks : Blanks blanks)
    (hbegun : Begun parts text) (hparts : ∀ part ∈ parts, WellFormed part)
    (hplace : layout.fields[parts.length]? = some field) :
    Reaches field (blanks ++ octet '[' :: text)

theorem brace_lead (shape : Shape σ) {blanks : Octets} (h : Blanks blanks) :
    Leads shape.reader.read shape.readObject (blanks ++ [octet '\x7b']) := by
  exact .of_eq fun rest => read_brace shape (skipBlanks_last h (by decide) rest)

theorem bracket_lead (shape : Shape σ) {blanks : Octets} (h : Blanks blanks) :
    Leads shape.reader.read
      (fun bytes => shape.readPlaces 0 shape.blank bytes shape.members)
      (blanks ++ [octet '[']) := by
  exact .of_eq fun rest => read_bracket shape (skipBlanks_last h (by decide) rest)

theorem blanks_lead {field : Field σ} (h : field ∈ layout.fields) {b : UInt8} (hb : StartsValue b)
    {blanks : Octets} (hblanks : Blanks blanks) :
    Leads field.member.reader.read (fun rest => field.member.reader.read (b :: rest))
      (blanks ++ [b]) := by
  refine .of_eq fun rest => ?_
  have hskip := (layout.reads field h).skips (blanks ++ b :: rest)
  rw [skipBlanks_mark hblanks hb.notBlank rest] at hskip
  rw [List.append_assoc, List.cons_append, List.nil_append]
  simp only [Field.member, Reader.map, hskip]

/-- **From a record to the value of a field.** -/
theorem Reaches.leads {field : Field σ} (h : field ∈ layout.fields) {front : Octets}
    (hfront : layout.Reaches field front) {b : UInt8} (hb : StartsValue b) :
    Leads layout.shape.reader.read (fun rest => field.member.reader.read (b :: rest))
      (front ++ [b]) := by
  rcases hfront with ⟨hblanks, hbegun, hproper, hname, hbefore, hafter⟩ |
    ⟨hblanks, hbegun, hparts, hplace⟩
  · have := (brace_lead layout.shape hblanks).trans
      ((entry_lead hbegun hproper h hname hbefore).trans (blanks_lead h hb hafter))
    simpa only [List.append_assoc, List.cons_append, List.nil_append] using this
  · have := (bracket_lead layout.shape hblanks).trans (place_lead hbegun hparts hplace hb)
    simpa only [List.append_assoc, List.cons_append, List.nil_append] using this

/-- From a record to a record inside a list that it has for a field. -/
theorem Reaches.item_lead {τ : Type} {item : Layout τ} {name : String} {get : σ → Option (List τ)}
    {put : Option (List τ) → σ → σ} (hfield : item.listField name get put ∈ layout.fields)
    {front begun : Octets} (hfront : layout.Reaches (item.listField name get put) front)
    {items : List Octets} (hbegun : Begun items begun)
    (hitems : ∀ part ∈ items, WellFormed part) :
    Leads layout.shape.reader.read item.shape.readObject
      ((front ++ [octet '[']) ++ (begun ++ [octet '\x7b'])) := by
  have hinside : Leads
      (fun rest => (item.listField name get put).member.reader.read (octet '[' :: rest))
      item.shape.reader.readItems [] :=
    .inr fun rest fault hfault => ⟨fault.path, map_error (optionalList_error hfault)⟩
  have hobject : Leads (fun rest => item.shape.reader.read (octet '\x7b' :: rest))
      item.shape.readObject [] :=
    .of_eq fun rest => read_brace item.shape (skipBlanks_cons (by decide) rest)
  have := (hfront.leads hfield (b := octet '[') (by decide)).trans (hinside.trans
    ((items_lead item.shape_reads (b := octet '\x7b') (by decide) hbegun hitems).trans hobject))
  simpa only [List.nil_append, List.append_nil] using this

end Layout

end ListingReview.Json
