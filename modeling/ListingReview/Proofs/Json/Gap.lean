import ListingReview.Proofs.Json.Front
import ListingReview.Proofs.Json.Shown

/-! # JSON: gaps in a text

A gap is given by the octets around it. It is the place of a field (`Layout.Around`) or of an item
(`AroundItem`), whatever else the object or list holds, and gaps may be inside each other
(`Layout.AroundWithin`).

* `Gap`: where a text with some value in the gap is written for a record, another value may stand
  there; the record then has that value for the field, and is the same otherwise.
* `Enters`: what the inner reader refuses in the gap is refused by the outer one for the same cause.
* `Gap.refuses`: so it is, if a text with something in the gap is accepted at all.
* `Frame.fill`, `Frame.refuses`: the same for texts that are read, by themselves or in front of
  others. -/

namespace ListingReview.Json

open Text (Octets octets)

/-! ### Brackets around a part -/

section Brackets

variable {closing : UInt8} {parts parts' : List Octets} {begun behind : Octets}

theorem Begun.comma (h : Begun parts begun) (hbehind : Behind closing parts' behind)
    (part : Octets) {blanks : Octets} (hblanks : Blanks blanks) :
    Behind closing (parts ++ part :: parts')
      (blanks ++ octet ',' :: (begun ++ (part ++ behind))) := by
  induction h generalizing blanks with
  | nil hblanks' => exact .comma hblanks hblanks' hbehind
  | cons hblanks₁ hblanks₂ _ ih =>
    simp only [List.append_assoc, List.cons_append]
    exact .comma hblanks hblanks₁ (ih hblanks₂)

theorem Begun.brackets (h : Begun parts begun) (hbehind : Behind closing parts' behind)
    (opening : UInt8) (part : Octets) :
    Brackets opening closing (parts ++ part :: parts')
      (opening :: (begun ++ (part ++ behind))) := by
  rcases h with hblanks | ⟨hblanks₁, hblanks₂, hrest⟩
  · exact .parts hblanks hbehind
  · simp only [List.append_assoc, List.cons_append]
    exact .parts hblanks₁ (hrest.comma hbehind part hblanks₂)

theorem Begun.hasItems (h : Begun parts begun) (hparts : ∀ part ∈ parts, WellFormed part)
    {part : Octets} (hpart : WellFormed part) (hbehind : Behind (octet ']') parts' behind)
    (hparts' : ∀ part ∈ parts', WellFormed part) :
    HasItems (octet '[' :: (begun ++ (part ++ behind))) (parts ++ part :: parts') :=
  ⟨h.brackets hbehind _ part,
    List.forall_mem_append.mpr ⟨hparts, List.forall_mem_cons.mpr ⟨hpart, hparts'⟩⟩⟩

theorem Begun.hasEntries {entries entries' : List Entry} (h : Begun (entries.map Entry.text) begun)
    (hproper : ∀ entry ∈ entries, entry.Proper) {entry : Entry} (hentry : entry.Proper)
    (hbehind : Behind (octet '\x7d') (entries'.map Entry.text) behind)
    (hproper' : ∀ entry ∈ entries', entry.Proper) :
    HasEntries (octet '\x7b' :: (begun ++ (entry.text ++ behind)))
      (entries ++ entry :: entries') := by
  refine ⟨?_, List.forall_mem_append.mpr ⟨hproper, List.forall_mem_cons.mpr ⟨hentry, hproper'⟩⟩⟩
  rw [IsObject, List.map_append, List.map_cons]
  exact h.brackets hbehind _ _

end Brackets

/-! ### Gaps -/

section Gap

variable {α β γ δ : Type}

/-- Around a gap for a part of a value: if there is a value in it, then another part may take its
place. -/
structure Gap (outer : α → Octets → Prop) (inner : β → Octets → Prop) (get : α → Option β)
    (change : (β → β) → α → α) (front behind : Octets) : Prop where
  starts : Starts front
  ends : ∀ rest, Ends (behind ++ rest)
  wellFormed : ∀ {text}, WellFormed text → WellFormed (front ++ (text ++ behind))
  fill : ∀ {value text}, WellFormed text → outer value (front ++ (text ++ behind)) →
    ∃ part, get value = some part ∧ inner part text ∧ ∀ (f : β → β) {text'},
      inner (f part) text' → outer (change f value) (front ++ (text' ++ behind))

/-- What goes wrong behind the front goes wrong in front of it. -/
def Enters (outer : Octets → Except Fault α) (inner : Octets → Except Fault β) (front : Octets) :
    Prop :=
  ∀ ⦃b⦄, StartsValue b → Leads outer (fun rest => inner (b :: rest)) (front ++ [b])

variable {outer : α → Octets → Prop} {middle : β → Octets → Prop} {inner : γ → Octets → Prop}
  {get : α → Option β} {get' : β → Option γ} {change : (β → β) → α → α}
  {change' : (γ → γ) → β → β} {front front' behind behind' : Octets}

/-- A gap inside another. -/
theorem Gap.trans (h : Gap outer middle get change front behind)
    (h' : Gap middle inner get' change' front' behind') :
    Gap outer inner (fun value => (get value).bind get') (change ∘ change') (front ++ front')
      (behind' ++ behind) where
  starts := by
    obtain ⟨b, rest, rfl, hb⟩ := h.starts
    exact ⟨b, rest ++ front', rfl, hb⟩
  ends rest := by
    rw [List.append_assoc]
    exact h'.ends (behind ++ rest)
  wellFormed htext := by
    have hwell := h.wellFormed (h'.wellFormed htext)
    simpa only [List.append_assoc] using hwell
  fill {value text} htext hvalue := by
    have hassoc : (front ++ front') ++ (text ++ (behind' ++ behind)) =
        front ++ ((front' ++ (text ++ behind')) ++ behind) := by
      simp only [List.append_assoc]
    rw [hassoc] at hvalue
    obtain ⟨part, hget, hpart, hchange⟩ := h.fill (h'.wellFormed htext) hvalue
    obtain ⟨part', hget', hpart', hchange'⟩ := h'.fill htext hpart
    refine ⟨part', by rw [hget, Option.bind_some, hget'], hpart', fun f text' htext' => ?_⟩
    have hfilled := hchange (change' f) (hchange' f htext')
    simpa only [Function.comp_apply, List.append_assoc] using hfilled

theorem Enters.trans {outer : Octets → Except Fault α} {middle : Octets → Except Fault β}
    {inner : Octets → Except Fault γ} (h : Enters outer middle front)
    (h' : Enters middle inner front') (hstarts : Starts front') :
    Enters outer inner (front ++ front') := by
  intro b hb
  obtain ⟨b', rest', rfl, hb'⟩ := hstarts
  -- the front inside starts behind the one outside, with the octet up to which that one leads
  have hinside : Leads (fun rest => middle (b' :: rest)) (fun rest => inner (b :: rest))
      (rest' ++ [b]) := h' hb
  have hboth := (h hb').trans hinside
  rwa [List.append_assoc, List.singleton_append, ← List.cons_append, ← List.append_assoc] at hboth

theorem Enters.of_map {outer : Octets → Except Fault α} {reader : Reader β} {f : β → γ}
    (h : Enters outer (reader.map f).read front) : Enters outer reader.read front := by
  intro b hb
  rcases h hb with hrefused | hlead
  · exact .inl hrefused
  · exact .inr fun rest fault hfault => hlead rest fault (map_error hfault)

/-- **What is refused in a gap is refused**, for the same cause, if any text with something in the
gap is accepted and something that starts alike may stand there. -/
theorem Gap.refuses {reader : Reader α} {inside : Octets → Except Fault δ}
    (hreads : reader.Reads outer) (h : Gap outer middle get change front behind)
    (henters : Enters reader.read inside front) {value : α} {text : Octets}
    (htext : WellFormed text) (hvalue : outer value (front ++ (text ++ behind))) {b : UInt8}
    (hb : StartsValue b) (halike : ∃ part rest, middle part (b :: rest)) {rest : Octets}
    {fault : Fault} (hfault : inside (b :: rest) = .error fault) :
    ∃ path, reader.read (front ++ b :: rest) = .error ⟨path, fault.cause⟩ := by
  rcases henters hb with hrefused | hlead
  · obtain ⟨part, rest', halike⟩ := halike
    obtain ⟨_, -, -, hchange⟩ := h.fill htext hvalue
    have haccepted := hreads.form_iff.mp (hchange (fun _ => part) halike)
    obtain ⟨fault', hfault'⟩ := hrefused (rest' ++ behind)
    rw [List.append_assoc, List.singleton_append, ← List.cons_append, haccepted.2] at hfault'
    cases hfault'
  · have hread := hlead rest fault hfault
    rwa [List.append_assoc, List.singleton_append] at hread

end Gap

/-! ### The value of a field -/

/-- A record with the value of a field changed. -/
def Field.change {σ : Type} (field : Field σ) (f : field.Value → field.Value) (record : σ) : σ :=
  field.put (f (field.get record)) record

namespace Layout

variable {σ : Type} {layout : Layout σ} {field : Field σ} {front behind : Octets}

variable (layout) in
/-- What stands around the value of a field, in an object or in a list. -/
inductive Around (field : Field σ) : Octets → Octets → Prop where
  | entry {begun key before after behind : Octets} {entries entries' : List Entry}
    (hbegun : Begun (entries.map Entry.text) begun) (hproper : ∀ entry ∈ entries, entry.Proper)
    (hname : field.Names key) (hbefore : Blanks before) (hafter : Blanks after)
    (hbehind : Behind (octet '\x7d') (entries'.map Entry.text) behind)
    (hproper' : ∀ entry ∈ entries', entry.Proper) :
    Around field (octet '\x7b' :: (begun ++ octet '"' ::
      (key ++ octet '"' :: (before ++ octet ':' :: after)))) behind
  | place {begun behind : Octets} {parts parts' : List Octets} (hbegun : Begun parts begun)
    (hparts : ∀ part ∈ parts, WellFormed part)
    (hplace : layout.fields[parts.length]? = some field)
    (hbehind : Behind (octet ']') parts' behind) (hparts' : ∀ part ∈ parts', WellFormed part) :
    Around field (octet '[' :: begun) behind

theorem Around.reaches (h : layout.Around field front behind) : layout.Reaches field front := by
  rcases h with ⟨hbegun, hproper, hname, hbefore, hafter, -, -⟩ | ⟨hbegun, hparts, hplace, -, -⟩
  · exact .entry .nil hbegun hproper hname hbefore hafter
  · exact .place .nil hbegun hparts hplace

theorem Around.enters (h : layout.Around field front behind) (hfield : field ∈ layout.fields) :
    Enters layout.shape.reader.read field.member.reader.read front := fun _ hb =>
  h.reaches.leads hfield hb

section Replace

variable {record : σ} {value : field.Value}

/-- Another value behind the key of a field. -/
theorem Members.replace (hfield : field ∈ layout.fields) {entries entries' : List Entry}
    {entry entry' : Entry} (h : layout.Members record (entries ++ entry :: entries'))
    (hname : field.Names entry.key) (hkey : entry'.key = entry.key)
    (hvalue : field.form value entry'.value) :
    layout.Members (field.put value record) (entries ++ entry' :: entries') := by
  have hsymm {e e' : Entry} (hapart : layout.Apart e e') : layout.Apart e' e :=
    fun f hf hboth => hapart f hf hboth.symm
  have hmem (e : Entry) :
      e ∈ entries ++ entry' :: entries' ↔ e = entry' ∨ e ∈ entries ++ entries' := by
    rw [List.perm_middle.mem_iff, List.mem_cons]
  have hold (e : Entry) (he : e ∈ entries ++ entries') : e ∈ entries ++ entry :: entries' := by
    rw [List.perm_middle.mem_iff]
    exact List.mem_cons_of_mem _ he
  obtain ⟨hapart, honce⟩ := List.pairwise_cons.mp ((List.pairwise_middle hsymm).mp h.once)
  refine ⟨fun e he => ?_, ?_, fun field' hfield' hnone => ?_⟩
  · rcases (hmem e).mp he with rfl | he
    · exact .field hfield (hkey ▸ hname) (by rwa [layout.get_put field hfield])
    · rcases h.tells e (hold e he) with ⟨hfield', hname', hform⟩ | ⟨hforeign, hwell⟩
      · have hne : _ ≠ field := fun heq => hapart e he field hfield ⟨hname, heq ▸ hname'⟩
        exact .field hfield' hname' ((get_put_ne hfield' hfield hne value record).symm ▸ hform)
      · exact .foreign hforeign hwell
  · rw [List.pairwise_middle hsymm, List.pairwise_cons]
    refine ⟨fun e he field' hfield' hboth => ?_, honce⟩
    exact hapart e he field' hfield' ⟨hkey ▸ hboth.1, hboth.2⟩
  · have hne : field' ≠ field := by
      rintro rfl
      exact hnone entry' ((hmem entry').mpr (.inl rfl)) (hkey ▸ hname)
    rw [get_put_ne hfield' hfield hne]
    refine h.absent field' hfield' fun e he hname' => ?_
    rw [List.perm_middle.mem_iff, List.mem_cons] at he
    rcases he with rfl | he
    · exact hnone entry' ((hmem entry').mpr (.inl rfl)) (hkey ▸ hname')
    · exact hnone e ((hmem e).mpr (.inr he)) hname'

theorem Places.congr {record' : σ} {fields : List (Field σ)} {parts : List Octets}
    (h : layout.Places record fields parts)
    (heq : ∀ field ∈ fields, field.get record' = field.get record) :
    layout.Places record' fields parts := by
  induction h with
  | all => exact .all
  | stop hstop hblank =>
    exact .stop hstop fun field hfield => (heq field hfield).trans (hblank field hfield)
  | place hform _ ih =>
    obtain ⟨hhead, htail⟩ := List.forall_mem_cons.mp heq
    exact .place (hhead ▸ hform) (ih htail)

/-- Another value at the place of a field. -/
theorem Places.replace {record' : σ} {done after : List (Field σ)} {parts parts' : List Octets}
    {part part' : Octets} (hlength : parts.length = done.length)
    (h : layout.Places record (done ++ field :: after) (parts ++ part :: parts'))
    (hvalue : field.form (field.get record') part')
    (heq : ∀ f ∈ done ++ after, f.get record' = f.get record) :
    layout.Places record' (done ++ field :: after) (parts ++ part' :: parts') := by
  induction done generalizing parts with
  | nil =>
    obtain rfl := List.eq_nil_of_length_eq_zero hlength
    rcases h with _ | _ | ⟨-, hrest⟩
    exact .place hvalue (hrest.congr heq)
  | cons f done ih =>
    obtain ⟨p, parts, rfl⟩ := List.exists_cons_of_length_eq_add_one hlength
    rcases h with _ | _ | ⟨hform, hrest⟩
    obtain ⟨hhead, htail⟩ := List.forall_mem_cons.mp heq
    exact .place (hhead ▸ hform) (ih (Nat.succ.inj hlength) hrest htail)

end Replace

/-- The value of an entry. -/
theorem gap_entry (hfield : field ∈ layout.fields) {begun key before after : Octets}
    {entries entries' : List Entry} (hbegun : Begun (entries.map Entry.text) begun)
    (hproper : ∀ entry ∈ entries, entry.Proper) (hname : field.Names key) (hbefore : Blanks before)
    (hafter : Blanks after) (hbehind : Behind (octet '\x7d') (entries'.map Entry.text) behind)
    (hproper' : ∀ entry ∈ entries', entry.Proper) :
    Gap layout.Written field.form (some ∘ field.get) field.change
      (octet '\x7b' :: (begun ++ octet '"' :: (key ++ octet '"' :: (before ++ octet ':' :: after))))
      behind := by
  let entry (value : Octets) : Entry := ⟨key, before, after, value, hbefore, hafter⟩
  have htext (value : Octets) : octet '\x7b' :: (begun ++ octet '"' :: (key ++ octet '"' ::
      (before ++ octet ':' :: after))) ++ (value ++ behind) =
        octet '\x7b' :: (begun ++ ((entry value).text ++ behind)) := by
    simp [entry, Entry.text, Entry.body]
  have hentries {value : Octets} (hvalue : WellFormed value) :
      HasEntries (octet '\x7b' :: (begun ++ ((entry value).text ++ behind)))
        (entries ++ entry value :: entries') :=
    hbegun.hasEntries hproper ⟨hname.loose, hvalue⟩ hbehind hproper'
  refine ⟨⟨_, _, rfl, by decide⟩, hbehind.ends (by decide), fun {value} hvalue => ?_, ?_⟩
  · rw [htext]
    exact (hentries hvalue).wellFormed
  · intro record value hvalue hwritten
    rw [htext] at hwritten
    have hmem : entry value ∈ entries ++ entry value :: entries' := by simp
    refine ⟨field.get record, rfl, hwritten.form hfield (.entry (hentries hvalue) hmem hname),
      fun f value' hvalue' => ?_⟩
    rw [htext]
    exact .object (hentries ((layout.reads field hfield).wellFormed hvalue')).isObject
      ((hwritten.members (hentries hvalue)).replace hfield hname rfl hvalue')

/-- The value at a place. -/
theorem gap_place {begun : Octets} {parts parts' : List Octets} (hbegun : Begun parts begun)
    (hparts : ∀ part ∈ parts, WellFormed part) (hplace : layout.fields[parts.length]? = some field)
    (hbehind : Behind (octet ']') parts' behind) (hparts' : ∀ part ∈ parts', WellFormed part) :
    Gap layout.Written field.form (some ∘ field.get) field.change (octet '[' :: begun) behind := by
  have hitems {value : Octets} (hvalue : WellFormed value) :
      HasItems (octet '[' :: (begun ++ (value ++ behind))) (parts ++ value :: parts') :=
    hbegun.hasItems hparts hvalue hbehind hparts'
  obtain ⟨hlt, hget⟩ := List.getElem?_eq_some_iff.mp hplace
  obtain ⟨done, after, hfields, hlength⟩ : ∃ done after,
      done ++ field :: after = layout.fields ∧ done.length = parts.length :=
    ⟨layout.fields.take parts.length, layout.fields.drop (parts.length + 1),
      by rw [← hget, List.getElem_cons_drop, List.take_append_drop],
      by rw [List.length_take]; omega⟩
  obtain ⟨hfield, hdone, hafter⟩ := apart_middle hfields
  refine ⟨⟨_, _, rfl, by decide⟩, hbehind.ends (by decide),
    fun hvalue => .list (hitems hvalue).isList (hitems hvalue).wellFormed, ?_⟩
  intro record value hvalue hwritten
  have hplaces := hwritten.places (hitems hvalue)
  refine ⟨field.get record, rfl, hwritten.form hfield (.place (hitems hvalue) hplace (by simp)),
    fun f value' hvalue' => ?_⟩
  have hwell := (layout.reads field hfield).wellFormed hvalue'
  refine .list (hitems hwell).isList ?_
  rw [← hfields] at hplaces ⊢
  refine hplaces.replace hlength.symm ?_ fun f' hf' => ?_
  · rwa [Field.change, layout.get_put field hfield]
  · rcases List.mem_append.mp hf' with hf' | hf'
    · exact (hdone f' hf').get_put _ _
    · exact (hafter f' hf').get_put' _ _

/-- **The value of a field** may be another one. -/
theorem Around.gap (h : layout.Around field front behind) (hfield : field ∈ layout.fields) :
    Gap layout.Written field.form (some ∘ field.get) field.change front behind := by
  rcases h with ⟨hbegun, hproper, hname, hbefore, hafter, hbehind, hproper'⟩ |
    ⟨hbegun, hparts, hplace, hbehind, hparts'⟩
  · exact gap_entry hfield hbegun hproper hname hbefore hafter hbehind hproper'
  · exact gap_place hbegun hparts hplace hbehind hparts'

end Layout

/-! ### An item of a list -/

/-- What stands around the item of a list with an index. -/
inductive AroundItem (index : Nat) : Octets → Octets → Prop where
  | item {begun behind : Octets} {parts parts' : List Octets} (hbegun : Begun parts begun)
    (hparts : ∀ part ∈ parts, WellFormed part) (hindex : parts.length = index)
    (hbehind : Behind (octet ']') parts' behind) (hparts' : ∀ part ∈ parts', WellFormed part) :
    AroundItem index (octet '[' :: begun) behind

section Item

variable {α : Type} {item : Reader α} {form : α → Octets → Prop} {index : Nat}
  {front behind : Octets}

theorem forall₂_modify : ∀ {values : List α} {parts parts' : List Octets} {part : Octets},
    List.Forall₂ form values (parts ++ part :: parts') → ∃ value,
      values[parts.length]? = some value ∧ form value part ∧
        ∀ (f : α → α) {part'}, form (f value) part' →
          List.Forall₂ form (values.modify parts.length f) (parts ++ part' :: parts')
  | _, [], _, _, .cons hvalue hrest =>
    ⟨_, rfl, hvalue, fun f _ hvalue' => by simpa using ⟨hvalue', hrest⟩⟩
  | _, _ :: _, _, _, .cons hvalue hrest => by
    obtain ⟨value, hget, hpart, hchange⟩ := forall₂_modify hrest
    refine ⟨value, hget, hpart, fun f _ hvalue' => ?_⟩
    simpa using ⟨hvalue, hchange f hvalue'⟩

/-- **An item of a list** that may be absent may be another one. -/
theorem AroundItem.gap (hreads : item.Reads form) (h : AroundItem index front behind) :
    Gap (OrNull (ListOf form)) form (fun found => found.bind (·[index]?))
      (fun f => Option.map (·.modify index f)) front behind := by
  obtain @⟨begun, _, parts, parts', hbegun, hparts, rfl, hbehind, hparts'⟩ := h
  have hitems {value : Octets} (hvalue : WellFormed value) :
      HasItems (octet '[' :: (begun ++ (value ++ behind))) (parts ++ value :: parts') :=
    hbegun.hasItems hparts hvalue hbehind hparts'
  refine ⟨⟨_, _, rfl, by decide⟩, hbehind.ends (by decide),
    fun hvalue => .list (hitems hvalue).isList (hitems hvalue).wellFormed, ?_⟩
  intro found value hvalue hwritten
  generalize htext : octet '[' :: begun ++ (value ++ behind) = text at hwritten
  rcases hwritten with _ | ⟨hlist⟩
  · exact absurd (List.cons.inj htext).1 (by decide)
  · rw [← htext] at hlist
    obtain ⟨part, hget, hpart, hchange⟩ := forall₂_modify (hlist.forms hreads (hitems hvalue))
    refine ⟨part, hget, hpart, fun f value' hvalue' => ?_⟩
    exact .value (.items (hitems (hreads.wellFormed hvalue')).isList (hchange f hvalue'))

theorem AroundItem.enters (hreads : item.Reads form) (h : AroundItem index front behind) :
    Enters item.list.optional.read item.read front := by
  obtain ⟨hbegun, hparts, -, -, -⟩ := h
  intro b hb
  have hinside :
      Leads (fun rest => item.list.optional.read (octet '[' :: rest)) item.readItems [] :=
    .inr fun rest fault hfault => ⟨fault.path, optionalList_error hfault⟩
  exact hinside.trans (items_lead hreads hb hbegun hparts)

end Item

/-! ### The value of a field of an item -/

namespace Layout

variable {σ τ : Type} {layout : Layout σ} {item : Layout τ} {name : String}
  {get : σ → Option (List τ)} {put : Option (List τ) → σ → σ} {index : Nat} {field : Field τ}
  {front behind : Octets}

variable (layout item) in
/-- What stands around the value of a field, in the item with an index of a list for a field. -/
inductive AroundWithin (list : Field σ) (index : Nat) (field : Field τ) :
    Octets → Octets → Prop where
  | within {front behind front' behind' front'' behind'' : Octets}
    (hlist : layout.Around list front behind) (hitem : AroundItem index front' behind')
    (h : item.Around field front'' behind'') :
    AroundWithin list index field (front ++ (front' ++ front'')) ((behind'' ++ behind') ++ behind)

variable (h : layout.AroundWithin item (item.listField name get put) index field front behind)
  (hlist : item.listField name get put ∈ layout.fields) (hfield : field ∈ item.fields)
include h hlist hfield

theorem AroundWithin.gap : Gap layout.Written field.form
    (fun record => ((get record).bind (·[index]?)).bind fun value => some (field.get value))
    (fun f record => put ((get record).map (·.modify index (field.change f))) record)
    front behind := by
  obtain ⟨hout, hitem, hin⟩ := h
  have hinside := (hitem.gap item.shape_reads).trans (hin.gap hfield)
  exact (hout.gap hlist).trans hinside

theorem AroundWithin.enters :
    Enters layout.shape.reader.read field.format.reader.read front := by
  obtain ⟨hout, hitem, hin⟩ := h
  have hinside : Enters item.shape.reader.list.optional.read field.format.reader.read _ :=
    (hitem.enters item.shape_reads).trans (hin.enters hfield).of_map (hin.gap hfield).starts
  have hstarts := ((hitem.gap item.shape_reads).trans (hin.gap hfield)).starts
  exact (hout.enters hlist).of_map.trans hinside hstarts

end Layout

/-! ### Texts with a gap -/

/-- A text with a gap, by what is put into it; anything may stand behind. -/
def Frame (around : Octets → Octets → Prop) (frame : Octets → Octets) : Prop :=
  ∃ blanks front behind after, Blanks blanks ∧ around front behind ∧
    ∀ value, frame value = blanks ++ ((front ++ (value ++ behind)) ++ after)

/-- One of the two ways to read a value: by itself or in front of other text. -/
inductive Reader.Decodes {α : Type} (reader : Reader α) : (Octets → Except Fault α) → Prop where
  | whole : reader.Decodes reader.whole
  | front : reader.Decodes reader.front

section Frame

variable {σ β δ : Type} {decode : Octets → Except Fault σ}

theorem Reader.Decodes.read {reader : Reader σ} (h : reader.Decodes decode) {bytes : Octets}
    {value : σ} (hvalue : decode bytes = .ok value) :
    ∃ rest, reader.read bytes = .ok (value, rest) := by
  rcases h with _ | _
  · obtain ⟨rest, hread, -⟩ := read_of_whole hvalue
    exact ⟨rest, hread⟩
  · exact read_of_front hvalue

/-- Only what follows the value decides between the two ways. -/
theorem Reader.Decodes.congr {reader : Reader σ} (h : reader.Decodes decode)
    {bytes bytes' rest : Octets} {value value' : σ} (hvalue : decode bytes = .ok value)
    (hread : reader.read bytes = .ok (value, rest))
    (hread' : reader.read bytes' = .ok (value', rest)) : decode bytes' = .ok value' := by
  rcases h with _ | _
  · obtain ⟨rest', hread'', hrest⟩ := read_of_whole hvalue
    rw [hread] at hread''
    cases hread''
    exact Reader.whole_of_read hread' hrest
  · exact Reader.front_of_read hread'

theorem Reader.Decodes.error {reader : Reader σ} (h : reader.Decodes decode) {bytes : Octets}
    {fault : Fault} (hread : reader.read bytes = .error fault) : decode bytes = .error fault := by
  rcases h with _ | _
  · rw [Reader.whole, hread]
  · rw [Reader.front, hread]
    rfl

variable {layout : Layout σ} {form : β → Octets → Prop} {get : σ → Option β}
  {change : (β → β) → σ → σ} {around : Octets → Octets → Prop} {frame : Octets → Octets}
  {record : σ} {text : Octets} (hdecode : layout.shape.reader.Decodes decode)
  (hframe : Frame around frame) (hgap : ∀ {front behind}, around front behind →
    Gap layout.Written form get change front behind)
include hdecode hframe hgap

/-- A text that is accepted is accepted with any other value in the gap. -/
theorem Frame.fill (htext : WellFormed text) (hrecord : decode (frame text) = .ok record) :
    ∃ part, get record = some part ∧ form part text ∧ ∀ (f : β → β) {text'},
      form (f part) text' → decode (frame text') = .ok (change f record) := by
  obtain ⟨blanks, front, behind, after, hblanks, haround, heq⟩ := hframe
  obtain ⟨rest, hread⟩ := hdecode.read hrecord
  have hwell := (hgap haround).wellFormed htext
  have hread' := hread
  rw [heq, ← layout.shape_reads.skips, hwell.starts.skipBlanks_append hblanks] at hread'
  obtain ⟨hwritten, rfl⟩ := (Layout.read_iff hwell).mp hread'
  obtain ⟨part, hget, hpart, hchange⟩ := (hgap haround).fill htext hwritten
  refine ⟨part, hget, hpart, fun f text' htext' => ?_⟩
  have hfilled := layout.read_of_written hblanks (hchange f htext') rest
  rw [← heq] at hfilled
  exact hdecode.congr hrecord hread hfilled

/-- A text that is accepted is refused with something in the gap that is refused there. -/
theorem Frame.refuses {inside : Octets → Except Fault δ}
    (henters : ∀ {front behind}, around front behind → Enters layout.shape.reader.read inside front)
    (htext : WellFormed text) (hrecord : decode (frame text) = .ok record) {b : UInt8}
    (hb : StartsValue b) (halike : ∃ part rest, form part (b :: rest)) {value : Octets}
    {p : Cause → Prop} (hvalue : ∀ rest, Ends rest →
      ∃ fault, inside (b :: (value ++ rest)) = .error fault ∧ p fault.cause) :
    ∃ fault, decode (frame (b :: value)) = .error fault ∧ p fault.cause := by
  obtain ⟨blanks, front, behind, after, hblanks, haround, heq⟩ := hframe
  obtain ⟨rest, hread⟩ := hdecode.read hrecord
  have hgap := hgap haround
  have hwell := hgap.wellFormed htext
  rw [heq, ← layout.shape_reads.skips, hwell.starts.skipBlanks_append hblanks] at hread
  obtain ⟨hwritten, -⟩ := (Layout.read_iff hwell).mp hread
  obtain ⟨fault, hfault, hcause⟩ := hvalue (behind ++ after) (hgap.ends after)
  obtain ⟨path, hpath⟩ := hgap.refuses layout.shape_reads (henters haround) htext hwritten hb halike
    hfault
  refine ⟨⟨path, fault.cause⟩, hdecode.error ?_, hcause⟩
  rw [heq, ← layout.shape_reads.skips]
  have hskip := hgap.starts.skipBlanks_append hblanks (b :: (value ++ (behind ++ after)))
  simp only [List.append_assoc, List.cons_append] at hskip hpath ⊢
  rw [hskip, hpath]

end Frame

end ListingReview.Json
