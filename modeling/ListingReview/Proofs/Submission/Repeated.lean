import ListingReview.Proofs.Json.Front
import ListingReview.Proofs.Json.Shown
import ListingReview.Proofs.Submission.Written

/-! # Submissions: members that are repeated

No member of a submission, of an image or of a variant is accepted twice, whichever of its names are
used and however they are spelled (`Submission.no_member_twice`). What has been read is written in
the text (`Submission.Decodes.written`), so all that the text shows of a record is in the record
(`Submission.Shows.written`). A second key fails where it stands, as a front leads there from the
start of the text (`Submission.Opens.second_key`). -/

namespace ListingReview

open Json
open Text (Octets octets)

/-- A text starts with a value, behind blanks; anything may follow. -/
def Json.Heads (value bytes : Octets) : Prop :=
  WellFormed value ∧ ∃ blanks rest, Blanks blanks ∧ bytes = blanks ++ (value ++ rest)

/-! ### Records in submissions -/

namespace Submission

variable {σ : Type}

/-- A text has a record at a place of a submission: the submission itself, an image or a variant. -/
inductive Shows (text : Octets) :
    {σ : Type} → Layout σ → (Submission → Option σ) → Octets → Prop where
  | whole : Shows text layout some text
  | image {value part : Octets} {items : List Octets} {i : Nat}
    (hvalue : layout.Shows text imagesField value) (hitems : HasItems value items)
    (hpart : items[i]? = some part) :
    Shows text ImageSubmission.layout (fun submission => submission.images.bind (·[i]?)) part
  | variant {value part : Octets} {items : List Octets} {i : Nat}
    (hvalue : layout.Shows text variantsField value) (hitems : HasItems value items)
    (hpart : items[i]? = some part) :
    Shows text VariantSubmission.layout (fun submission => submission.variants.bind (·[i]?)) part

/-- A front behind which a record of a submission stands. -/
inductive Opens : {σ : Type} → Layout σ → Octets → Prop where
  | whole {blanks : Octets} (h : Blanks blanks) : Opens layout blanks
  | image {front begun : Octets} {items : List Octets} (hfront : layout.Reaches imagesField front)
    (hbegun : Begun items begun) (hitems : ∀ part ∈ items, WellFormed part) :
    Opens ImageSubmission.layout (front ++ octet '[' :: begun)
  | variant {front begun : Octets} {items : List Octets}
    (hfront : layout.Reaches variantsField front) (hbegun : Begun items begun)
    (hitems : ∀ part ∈ items, WellFormed part) :
    Opens VariantSubmission.layout (front ++ octet '[' :: begun)

theorem imagesField_mem : imagesField ∈ layout.fields := by simp [layout]

theorem variantsField_mem : variantsField ∈ layout.fields := by simp [layout]

theorem Shows.written {text part : Octets} {item : Layout σ} {view : Submission → Option σ}
    (h : Shows text item view part) {submission : Submission}
    (hwritten : layout.Written submission text) :
    ∃ record, view submission = some record ∧ item.Written record part := by
  rcases h with _ | ⟨hvalue, hitems, hpart⟩ | ⟨hvalue, hitems, hpart⟩
  · exact ⟨submission, rfl, hwritten⟩
  · exact hwritten.item imagesField_mem hvalue hitems hpart
  · exact hwritten.item variantsField_mem hvalue hitems hpart

theorem Opens.leads {item : Layout σ} {front : Octets} (h : Opens item front) :
    Leads layout.shape.reader.read item.shape.readObject (front ++ [octet '\x7b']) := by
  rcases h with hblanks | ⟨hfront, hbegun, hitems⟩ | ⟨hfront, hbegun, hitems⟩
  · exact Layout.brace_lead _ hblanks
  · have := hfront.item_lead imagesField_mem hbegun hitems
    simpa only [List.append_assoc, List.cons_append, List.nil_append] using this
  · have := hfront.item_lead variantsField_mem hbegun hitems
    simpa only [List.append_assoc, List.cons_append, List.nil_append] using this

/-- A text is read as a submission, by itself or in front of other text. -/
def Decodes (bytes : Octets) (submission : Submission) : Prop :=
  layout.shape.reader.whole bytes = .ok submission ∨
    layout.shape.reader.front bytes = .ok submission

/-- A text that is refused either way, for the same fault. -/
def Fails (bytes : Octets) (fault : Fault) : Prop :=
  layout.shape.reader.whole bytes = .error fault ∧
    layout.shape.reader.front bytes = .error fault

theorem fails_of_read {bytes : Octets} {fault : Fault}
    (h : layout.shape.reader.read bytes = .error fault) : Fails bytes fault := by
  refine ⟨?_, ?_⟩
  · rw [Reader.whole, h]
  · rw [Reader.front, h]
    rfl

theorem Fails.not_decodes {bytes : Octets} {fault : Fault} (h : Fails bytes fault)
    {submission : Submission} : ¬ Decodes bytes submission := by
  rintro (hwhole | hfront)
  · rw [h.1] at hwhole
    cases hwhole
  · rw [h.2] at hfront
    cases hfront

theorem Decodes.read {bytes : Octets} {submission : Submission} (h : Decodes bytes submission) :
    ∃ rest, layout.shape.reader.read bytes = .ok (submission, rest) := by
  rcases h with hwhole | hfront
  · obtain ⟨rest, hread, -⟩ := read_of_whole hwhole
    exact ⟨rest, hread⟩
  · exact read_of_front hfront

/-- A text that is read starts with a value. -/
theorem Decodes.heads {bytes : Octets} {submission : Submission} (h : Decodes bytes submission) :
    ∃ value, Heads value bytes := by
  obtain ⟨rest, hread⟩ := h.read
  obtain ⟨blanks, value, hblanks, hvalue, hbytes⟩ := layout.shape_reads.sound hread
  exact ⟨value, layout.shape_reads.wellFormed hvalue, blanks, rest, hblanks, hbytes⟩

/-- What is read from a text is written there. -/
theorem Decodes.written {bytes value : Octets} {submission : Submission}
    (h : Decodes bytes submission) (hvalue : Heads value bytes) :
    layout.Written submission value := by
  obtain ⟨rest, hread⟩ := h.read
  obtain ⟨hwell, blanks, after, hblanks, rfl⟩ := hvalue
  rw [← layout.shape_reads.skips, hwell.starts.skipBlanks_append hblanks] at hread
  exact (Layout.read_iff hwell |>.mp hread).1

/-- Behind a front that may be continued, a second key for a field is refused. -/
theorem Opens.second_key {item : Layout σ} {front begun key : Octets} (hfront : Opens item front)
    {entries : List Entry} (hbegun : Begun (entries.map Entry.text) begun)
    (hproper : ∀ entry ∈ entries, entry.Proper) {field : Json.Field σ}
    (hfield : field ∈ item.fields)
    (hseen : ∃ entry ∈ entries, field.Names entry.key) (hname : field.Names key)
    (hcontinued : ∃ rest submission,
      Decodes (front ++ octet '\x7b' :: (begun ++ rest)) submission) (rest : Octets) :
    ∃ path, Fails (front ++ octet '\x7b' :: (begun ++ octet '"' :: (key ++ octet '"' :: rest)))
      ⟨path, .duplicate field.name⟩ := by
  obtain ⟨rest', submission, hdecodes⟩ := hcontinued
  -- what can be continued has not been refused already, neither the front nor what was begun
  have hnot : ∀ fault, layout.shape.reader.read (front ++ octet '\x7b' :: (begun ++ rest')) ≠
      .error fault := fun fault h => (fails_of_read h).not_decodes hdecodes
  have happend : ∀ bytes, (front ++ [octet '\x7b']) ++ bytes = front ++ octet '\x7b' :: bytes :=
    fun bytes => List.append_assoc _ _ _
  rcases hfront.leads with hrefused | hlead
  · obtain ⟨fault, hfault⟩ := hrefused (begun ++ rest')
    exact absurd (happend _ ▸ hfault) (hnot fault)
  have hobject : Refused item.shape.readObject begun ∨ _ := Layout.readObject_begun hbegun hproper
  rcases hobject with hrefused | ⟨found, hall, hread⟩
  · obtain ⟨fault, hfault⟩ := hrefused rest'
    obtain ⟨path, hpath⟩ := hlead _ fault hfault
    exact absurd (happend _ ▸ hpath) (hnot _)
  · -- the first key has put the field among those found
    have hfound : field.name ∈ found.seen := (hall.mem_seen hfield).mpr (.inr hseen)
    have hsecond := hread _ _ (Layout.readEntries_seen hfield hname hfound rest)
    obtain ⟨path, hpath⟩ := hlead _ _ hsecond
    exact ⟨path, fails_of_read (happend _ ▸ hpath)⟩

/-- **No member is accepted twice.** A text that is read as a submission starts with a value in
which each object that is the submission, an image or a variant gives each field at most once, under
whatever name and spelling, and what it gives is what has been read. And where a second key for a
field stands behind a front that could be continued, that field is reported as a duplicate, whatever
the values are and whatever follows. -/
theorem no_member_twice :
    (∀ {bytes : Octets} {submission : Submission}, Decodes bytes submission →
      (∃ text, Heads text bytes) ∧ ∀ {text : Octets}, Heads text bytes →
        ∀ {σ : Type} {item : Layout σ} {view : Submission → Option σ} {part : Octets},
          Shows text item view part → ∃ record, view submission = some record ∧
            ∀ entries, HasEntries part entries → item.Members record entries) ∧
    ∀ {σ : Type} {item : Layout σ} {front begun key : Octets} {entries : List Entry}
      {field : Json.Field σ}, Opens item front → Begun (entries.map Entry.text) begun →
      (∀ entry ∈ entries, entry.Proper) → field ∈ item.fields →
      (∃ entry ∈ entries, field.Names entry.key) → field.Names key →
      (∃ rest submission, Decodes (front ++ octet '\x7b' :: (begun ++ rest)) submission) →
      ∀ rest, ∃ fault,
        Fails (front ++ octet '\x7b' :: (begun ++ octet '"' :: (key ++ octet '"' :: rest))) fault ∧
          fault.cause = .duplicate field.name ∧ fault.cause.category = .unfitting := by
  refine ⟨?_, ?_⟩
  · intro bytes submission hdecodes
    refine ⟨hdecodes.heads, fun htext σ item view part hshows => ?_⟩
    obtain ⟨record, hrecord, hwritten⟩ := hshows.written (hdecodes.written htext)
    exact ⟨record, hrecord, fun entries hentries => hwritten.members hentries⟩
  · intro σ item front begun key entries field hfront hbegun hproper hfield hseen hname hcontinued
      rest
    obtain ⟨path, hfails⟩ :=
      hfront.second_key hbegun hproper hfield hseen hname hcontinued rest
    exact ⟨_, hfails, rfl, rfl⟩

/-! ### A second size for an image -/

/-- Parts with a comma behind each. -/
def tightBegun : List Octets → Octets
  | [] => []
  | part :: parts => part ++ octet ',' :: tightBegun parts

theorem begun_tight : ∀ parts, Begun parts (tightBegun parts)
  | [] => .nil .nil
  | _ :: parts => .cons .nil .nil (begun_tight parts)

/-- The front of `lampText`, up to its second image. -/
def lampFront : Octets :=
  (octet '\x7b' :: (tightBegun ((lampEntries.take 3).map Entry.text) ++
    octet '"' :: (octets "images" ++ [octet '"', octet ':']))) ++
      octet '[' :: tightBegun (lampImages.take 1)

theorem images_name : imagesField.Names (octets "images") :=
  ⟨"images", by decide, plainNames_spell "images" (by decide)⟩

theorem opens_lampFront : Opens ImageSubmission.layout lampFront := by
  have hproper : ∀ entry ∈ lampEntries.take 3, entry.Proper := fun entry hentry =>
    lamp_members.proper entry (List.mem_of_mem_take hentry)
  have hfront : layout.Reaches imagesField _ :=
    .entry .nil (begun_tight _) hproper images_name .nil .nil
  refine .image hfront (begun_tight _) fun part hpart => ?_
  exact ImageSubmission.layout.shape_reads.parts lampImages_written part
    (List.mem_of_mem_take hpart)

theorem lampText_from_front : ∃ rest, octets lampText =
    lampFront ++ octet '\x7b' :: (tightBegun ([sizeEntry].map Entry.text) ++ rest) := by
  refine ⟨idEntry.text ++ (octet '\x7d' :: octet ']' :: octet ',' ::
    ((lampEntries.drop 4).map Entry.text).flatten ++ [octet '\x7d']), ?_⟩
  rw [lampText_eq]
  simp [lampFront, lampEntries, lampImages, sizedImage, tight, tightBehind, tightBegun,
    Entry.tight, Entry.text, Entry.body]

theorem lampText_decodes : Decodes (octets lampText) lamp := by
  have hreads := layout.shape_reads
  have hwhole := (hreads.whole_iff .nil (hreads.wellFormed lamp_written) .nil).mpr lamp_written
  rw [List.nil_append, List.append_nil] at hwhole
  exact .inl hwhole

theorem shows_sizedImage : Shows (octets lampText) ImageSubmission.layout
    (fun submission => submission.images.bind (·[1]?)) sizedImage := by
  have hentries : HasEntries (octets lampText) lampEntries :=
    ⟨lampText_isObject, lamp_members.proper⟩
  have hvalue : layout.Shows (octets lampText) imagesField
      (tight (octet '[') (octet ']') lampImages) :=
    .entry hentries (List.getElem_mem (show 3 < lampEntries.length by decide)) images_name
  have hitems : HasItems (tight (octet '[') (octet ']') lampImages) lampImages :=
    ⟨brackets_tight _ _ _, ImageSubmission.layout.shape_reads.parts lampImages_written⟩
  exact .image hvalue hitems rfl

/-- The second image of a text that is read, and a second size for it. -/
theorem second_size_fails :
    ((∃ text, Heads text (octets lampText)) ∧ ∃ record, lamp.images.bind (·[1]?) = some record ∧
      ∀ entries, HasEntries sizedImage entries → ImageSubmission.layout.Members record entries) ∧
    ∀ rest, ∃ fault, Fails (lampFront ++ octet '\x7b' :: (tightBegun ([sizeEntry].map Entry.text) ++
        octet '"' :: (octets "file_size" ++ octet '"' :: rest))) fault ∧
      fault.cause = .duplicate "fileSizeBytes" ∧ fault.cause.category = .unfitting := by
  have hsize : ∃ field ∈ ImageSubmission.layout.fields, field.name = "fileSizeBytes" ∧
      field.Names (octets "fileSize") ∧ field.Names (octets "file_size") := by
    refine ⟨ImageSubmission.layout.fields[3], List.getElem_mem _, rfl, ?_, ?_⟩
    · exact ⟨"fileSize", by decide, plainNames_spell "fileSize" (by decide)⟩
    · exact ⟨"file_size", by decide, plainNames_spell "file_size" (by decide)⟩
  obtain ⟨field, hfield, hname, hfirst, hsecond⟩ := hsize
  have hproper : ∀ entry ∈ [sizeEntry], entry.Proper :=
    List.forall_mem_singleton.mpr (sizedImage_members.proper _ List.mem_cons_self)
  obtain ⟨rest, hrest⟩ := lampText_from_front
  have hread := no_member_twice.1 lampText_decodes
  refine ⟨⟨hread.1, hread.2 ?_ shows_sizedImage⟩, ?_⟩
  · exact ⟨layout.shape_reads.wellFormed lamp_written, [], [], .nil, by simp⟩
  · rw [← hname]
    exact no_member_twice.2 opens_lampFront (begun_tight _) hproper hfield
      ⟨sizeEntry, List.mem_cons_self, hfirst⟩ hsecond ⟨rest, lamp, hrest ▸ lampText_decodes⟩

end Submission

end ListingReview
