import Folio.Portfolio.Snapshot
import Folio.Proofs.Document.Decode

namespace Folio.Portfolio

open Folio.Contact Folio.Document Folio.Time

theorem SectionKind.named?_name (k : SectionKind) : named? k.name = some k := by
  cases k <;> decide

theorem SkillCategory.named?_name (c : SkillCategory) : named? c.name = some c := by
  cases c <;> decide

theorem list_texts (ss : List String) : list text (texts ss) = .ok ss :=
  items_map 0 fun _ _ => rfl

theorem nullable_ofText? (s : Option String) : nullable text (ofText? s) = .ok s :=
  nullable_text s

namespace Metadata

def Rated : Metadata → Prop
  | skill m => 0 ≤ m.proficiency ∧ m.proficiency ≤ 100
  | _ => True

theorem ofFields_sound {kind : SectionKind} {o : Fields} {m : Metadata}
    (h : ofFields kind o = .ok m) : m.kind = kind ∧ m.Rated := by
  cases kind with
  | skill =>
    obtain ⟨sm, hsm, rfl⟩ := Decoded.map_eq_ok.1 h
    simp only [SkillMetadata.ofFields, Decoded.seq_eq_ok, Decoded.map_eq_ok] at hsm
    obtain ⟨_, icon, ⟨_, proficiency, ⟨category, -, rfl⟩, hprof, rfl⟩, -, rfl⟩ := hsm
    have hrange : 0 ≤ proficiency ∧ proficiency ≤ 100 :=
      optional_induction (P := fun n => 0 ≤ n ∧ n ≤ 100) (by decide)
        (fun _ _ => integerBetween_eq_ok) hprof
    exact ⟨rfl, hrange⟩
  | experience =>
    obtain ⟨em, -, rfl⟩ := Decoded.map_eq_ok.1 h
    exact ⟨rfl, trivial⟩
  | project =>
    obtain ⟨pm, -, rfl⟩ := Decoded.map_eq_ok.1 h
    exact ⟨rfl, trivial⟩
  | certification =>
    obtain ⟨cm, -, rfl⟩ := Decoded.map_eq_ok.1 h
    exact ⟨rfl, trivial⟩
  | achievement =>
    obtain ⟨am, -, rfl⟩ := Decoded.map_eq_ok.1 h
    exact ⟨rfl, trivial⟩

theorem ofFields_fields {m : Metadata} (h : m.Rated) (style : KeyStyle) :
    ofFields m.kind (m.fields style) = .ok m := by
  cases m with
  | skill m =>
    simp [kind, fields, ofFields, SkillMetadata.ofFields, SkillMetadata.fields, Document.optional,
      Fields.find?, Fields.get?, List.lookup, Spelling.plain, oneOf, SkillCategory.named?_name,
      integerBetween_int h.1 h.2, nullable_ofText?]
  | experience m =>
    simp [kind, fields, ofFields, ExperienceMetadata.ofFields, ExperienceMetadata.fields,
      Document.optional, Fields.find?, Fields.get?, List.lookup, Spelling.plain, list_texts,
      nullable_ofText?]
  | project m =>
    cases style <;> simp [kind, fields, ofFields, ProjectMetadata.ofFields, ProjectMetadata.fields,
      Document.optional, Fields.find?, Fields.get?, List.lookup, Spelling.plain, Spelling.key,
      Spelling.techStack, Spelling.liveUrl, Spelling.githubUrl, list_texts, nullable_ofText?]
  | certification m =>
    cases style <;> simp [kind, fields, ofFields, CertificationMetadata.ofFields,
      CertificationMetadata.fields, Document.optional, Fields.find?, Fields.get?, List.lookup,
      Spelling.plain, Spelling.key, Spelling.credentialId, Spelling.credentialUrl,
      nullable_ofText?]
  | achievement m =>
    simp [kind, fields, ofFields, AchievementMetadata.ofFields, AchievementMetadata.fields,
      Document.optional, Fields.find?, Fields.get?, List.lookup, Spelling.plain]

theorem decodeAny_eq_ok {v : Value} {kinds : List SectionKind} {m : Metadata}
    (h : decodeAny v kinds = .ok m) : ∃ o, v = .record o := by
  induction kinds with
  | nil => cases h
  | cons kind kinds ih =>
    rw [decodeAny] at h
    split at h
    next hok =>
      obtain ⟨o, rfl, -⟩ := record_eq_ok.1 hok
      exact ⟨o, rfl⟩
    next =>
      split at h
      next hrest => exact ih (h ▸ hrest)
      next => cases h

end Metadata

namespace Section

/-- What decoding guarantees of a section: its metadata is of its own kind and in range, and each
of its dates names an instant. -/
structure Sound (s : Section) : Prop where
  kind : s.metadata.kind = s.kind
  rated : s.metadata.Rated
  start : ∀ t ∈ s.startDate, t.isAware = true
  stop : ∀ t ∈ s.endDate, t.isAware = true
  created : ∀ t ∈ s.createdAt, t.isAware = true
  updated : ∀ t ∈ s.updatedAt, t.isAware = true

end Section

theorem isAware_orUtc (t : Moment) : t.orUtc.isAware = true := by
  unfold Moment.orUtc
  split
  next h => simp [Moment.isAware, h]
  next => rfl

theorem orUtc_of_isAware {t : Moment} (h : t.isAware = true) : t.orUtc = t := by
  unfold Moment.orUtc
  split
  next => rfl
  next hnone => simp [Moment.isAware, hnone] at h

theorem utcMoment_aware {v : Value} {d : Option Moment} (h : utcMoment v = .ok d) :
    ∀ t ∈ d, t.isAware = true := by
  obtain ⟨d', -, rfl⟩ := Decoded.map_eq_ok.1 h
  intro t ht
  obtain ⟨u, -, rfl⟩ := Option.map_eq_some_iff.1 ht
  exact isAware_orUtc u

theorem optional_utcMoment_aware {o : Fields} {s : Spelling} {d : Option Moment}
    (h : Document.optional o s none utcMoment = .ok d) : ∀ t ∈ d, t.isAware = true :=
  optional_induction (by simp) (fun _ _ => utcMoment_aware) h

theorem utcMoment_ofMoment? {d : Option Moment} (h : ∀ t ∈ d, t.isAware = true) :
    utcMoment (Section.ofMoment? d) = .ok d := by
  have hdec : nullable moment (Section.ofMoment? d) = .ok d :=
    nullable_ofOption fun t _ => ⟨nofun, moment_toIso t⟩
  rw [utcMoment, hdec]
  cases d with
  | none => rfl
  | some t =>
    change Decoded.ok (some t.orUtc) = _
    rw [orUtc_of_isAware (h t rfl)]

namespace Section

theorem kindOf?_of_required {o : Fields} {kind : SectionKind}
    (h : required o (.plain "type") (oneOf .notMember SectionKind.named?) = .ok kind) :
    kindOf? o = some kind := by
  obtain ⟨v, hget, hv⟩ := required_eq_ok.1 h
  rw [value?_plain] at hget
  unfold oneOf at hv
  split at hv
  next t =>
    split at hv
    next k' hk' =>
      cases hv
      simp only [kindOf?, hget, hk']
    next => cases hv
  next => cases hv

def dates : List (Spelling × (Section → Option Moment)) :=
  [(Spelling.startDate, startDate), (Spelling.endDate, endDate),
    (Spelling.createdAt, createdAt), (Spelling.updatedAt, updatedAt)]

theorem around_eq_ok {o : Fields} {metadata : Decoded Metadata} {s : Section}
    (h : around o metadata = .ok s) :
    kindOf? o = some s.kind ∧ metadata = .ok s.metadata ∧
      ∀ d ∈ dates, Document.optional o d.1 none utcMoment = .ok (d.2 s) := by
  simp only [around, Decoded.seq_eq_ok, Decoded.map_eq_ok] at h
  obtain ⟨_, updated, ⟨_, created, ⟨_, visible, ⟨_, featured, ⟨_, order, ⟨_, stop, ⟨_, start,
    ⟨_, image, ⟨_, m, ⟨_, description, ⟨_, title, ⟨_, kind, ⟨id, -, rfl⟩, hkind, rfl⟩, -, rfl⟩, -,
    rfl⟩, hm, rfl⟩, -, rfl⟩, hstart, rfl⟩, hstop, rfl⟩, -, rfl⟩, -, rfl⟩, -, rfl⟩, hcreated, rfl⟩,
    hupdated, rfl⟩ := h
  refine ⟨kindOf?_of_required hkind, hm, ?_⟩
  simp only [dates, List.forall_mem_cons]
  exact ⟨hstart, hstop, hcreated, hupdated, by simp⟩

theorem loose_eq_ok {o : Fields} {m : Metadata}
    (h : required o (.plain "metadata") (Metadata.decodeAny · SectionKind.all) = .ok m) :
    ∃ fields, o.get? "metadata" = some (.record fields) := by
  obtain ⟨v, hget, hv⟩ := required_eq_ok.1 h
  obtain ⟨fields, rfl⟩ := Metadata.decodeAny_eq_ok hv
  exact ⟨fields, value?_plain o "metadata" ▸ hget⟩

def metadataOf? (o : Fields) : Option Fields :=
  match (o.get? "metadata").getD .null with
  | .null => some []
  | .record fields => some fields
  | _ => none

theorem ofFields_eq_ok {o : Fields} {s : Section} : ofFields o = .ok s ↔
    ∃ fields, metadataOf? o = some fields ∧ Metadata.ofFields s.kind fields = .ok s.metadata ∧
      around o (.ok s.metadata) = .ok s := by
  constructor
  · intro h
    unfold ofFields at h
    cases hkind : kindOf? o with
    | none =>
      -- a section that names no kind is refused for it
      simp only [hkind] at h
      rw [(around_eq_ok h).1] at hkind
      cases hkind
    | some kind =>
      simp only [hkind] at h
      have hgiven : ∀ fields, ((Metadata.ofFields kind fields).andThen fun m => around o (.ok m)) =
          .ok s → Metadata.ofFields s.kind fields = .ok s.metadata ∧
            around o (.ok s.metadata) = .ok s := by
        intro fields h
        obtain ⟨m, hm, haround⟩ := Decoded.andThen_eq_ok.1 h
        obtain ⟨hown, hmetadata, -⟩ := around_eq_ok haround
        rw [hkind] at hown
        cases hown
        cases hmetadata
        exact ⟨hm, haround⟩
      unfold metadataOf?
      generalize hv : (o.get? "metadata").getD .null = v at h ⊢
      cases v with
      | null => exact ⟨[], rfl, hgiven [] h⟩
      | record fields => exact ⟨fields, rfl, hgiven fields h⟩
      | _ =>
        -- metadata that is no record is metadata of no kind
        obtain ⟨fields, hget⟩ := loose_eq_ok (around_eq_ok h).2.1
        rw [hget] at hv
        cases hv
  · rintro ⟨fields, hfields, hm, haround⟩
    simp only [ofFields, (around_eq_ok haround).1]
    unfold metadataOf? at hfields
    generalize (o.get? "metadata").getD .null = v at hfields ⊢
    cases v with
    | null =>
      cases hfields
      exact Decoded.andThen_eq_ok.2 ⟨_, hm, haround⟩
    | record given =>
      cases hfields
      exact Decoded.andThen_eq_ok.2 ⟨_, hm, haround⟩
    | _ => cases hfields

theorem ofFields_sound {o : Fields} {s : Section} (h : ofFields o = .ok s) : s.Sound := by
  obtain ⟨fields, -, hm, haround⟩ := ofFields_eq_ok.1 h
  obtain ⟨hkind, hrated⟩ := Metadata.ofFields_sound hm
  have hdates := (around_eq_ok haround).2.2
  simp only [dates, List.forall_mem_cons] at hdates
  obtain ⟨hstart, hstop, hcreated, hupdated, -⟩ := hdates
  exact ⟨hkind, hrated, optional_utcMoment_aware hstart, optional_utcMoment_aware hstop,
    optional_utcMoment_aware hcreated, optional_utcMoment_aware hupdated⟩

theorem decode_sound {v : Value} {s : Section} (h : decode v = .ok s) : s.Sound := by
  obtain ⟨o, -, hfields⟩ := record_eq_ok.1 h
  exact ofFields_sound hfields

theorem decode_toDocument {s : Section} (h : s.Sound) (style : KeyStyle) :
    decode (s.toDocument style) = .ok s := by
  have hmetadata := Metadata.ofFields_fields h.rated style
  rw [h.kind] at hmetadata
  cases style <;> simp [decode, record, toDocument, ofFields, around, kindOf?, required,
    Document.optional, Fields.find?, Fields.get?, List.lookup, Spelling.plain, Spelling.key,
    Spelling.imageUrl, Spelling.startDate, Spelling.endDate, Spelling.displayOrder,
    Spelling.isFeatured, Spelling.isVisible, Spelling.createdAt, Spelling.updatedAt, oneOf,
    SectionKind.named?_name, hmetadata, Decoded.andThen, nullable_ofText?,
    utcMoment_ofMoment? h.start, utcMoment_ofMoment? h.stop, utcMoment_ofMoment? h.created,
    utcMoment_ofMoment? h.updated]

end Section

theorem Metadata.isJson_fields (m : Metadata) (style : KeyStyle) :
    (Value.record (m.fields style)).IsJson := by
  refine .record ?_
  have htexts : ∀ ss, (texts ss).IsJson := isJson_map .text
  have hoption : ∀ t, (ofText? t).IsJson := isJson_ofOption .text
  cases m with
  | skill m =>
    simp only [fields, SkillMetadata.fields, List.forall_mem_cons]
    exact ⟨.text _, .int _, hoption _, by simp⟩
  | experience m =>
    simp only [fields, ExperienceMetadata.fields, List.forall_mem_cons]
    exact ⟨.text _, hoption _, htexts _, by simp⟩
  | project m =>
    simp only [fields, ProjectMetadata.fields, List.forall_mem_cons]
    exact ⟨htexts _, hoption _, hoption _, htexts _, by simp⟩
  | certification m =>
    simp only [fields, CertificationMetadata.fields, List.forall_mem_cons]
    exact ⟨.text _, hoption _, hoption _, by simp⟩
  | achievement m =>
    simp only [fields, AchievementMetadata.fields, List.forall_mem_cons]
    exact ⟨.text _, .text _, by simp⟩

theorem Section.isJson_toDocument (s : Section) (style : KeyStyle) :
    (s.toDocument style).IsJson := by
  have hoption : ∀ t, (ofText? t).IsJson := isJson_ofOption .text
  have hmoment : ∀ d, (ofMoment? d).IsJson := isJson_ofOption fun t => .text t.toIso
  refine .record ?_
  simp only [List.forall_mem_cons]
  exact ⟨.text _, .text _, .text _, .text _, s.metadata.isJson_fields style, hoption _, hmoment _,
    hmoment _, .int _, .bool _, .bool _, hmoment _, hmoment _, by simp⟩

theorem isJson_contactInfo (c : ContactInfo) : c.toDocument.IsJson := by
  refine isJson_two (.text _) (.record fun f hf => ?_) _ _
  obtain ⟨e, -, rfl⟩ := List.mem_map.1 hf
  exact .text e.2

theorem decode_contactInfo (c : ContactInfo) : ContactInfo.decode c.toDocument = .ok c := by
  have hsocials := @entries_map _ text .text c.socials fun _ => rfl
  simp [ContactInfo.decode, record, ContactInfo.toDocument, ContactInfo.ofFields,
    Document.optional, Fields.find?, Fields.get?, List.lookup, Spelling.plain, mapping, hsocials]

theorem orInvalid_eq_ok {x : Decoded α} {a : α} : orInvalid x = .ok a ↔ x = .ok a := by
  cases x with
  | ok b => simp [orInvalid]
  | failed is => simp [orInvalid]

theorem mem_of_mem_ofKind {kind : SectionKind} {rows : List Section} {s : Section}
    (h : s ∈ ofKind kind (displayed rows)) : s ∈ rows := by
  have hshown := (List.mem_filter.1 h).1
  rw [displayed, List.mem_mergeSort] at hshown
  exact (List.mem_filter.1 hshown).1

namespace Snapshot

def sections (p : Snapshot) : List Section :=
  p.skills ++ p.experiences ++ p.projects ++ p.certifications ++ p.achievements

def Sound (p : Snapshot) : Prop := ∀ s ∈ p.sections, s.Sound

def lists : List (String × (Snapshot → List Section)) :=
  [("skills", skills), ("experiences", experiences), ("projects", projects),
    ("certifications", certifications), ("achievements", achievements)]

theorem forall_mem_sections {p : Snapshot} {P : Section → Prop} :
    (∀ s ∈ p.sections, P s) ↔ ∀ l ∈ lists, ∀ s ∈ l.2 p, P s := by
  simp only [sections, lists, List.forall_mem_append, List.forall_mem_cons, List.not_mem_nil,
    false_imp_iff, implies_true, and_true, and_assoc]

theorem sound_iff {p : Snapshot} : p.Sound ↔ (∀ s ∈ p.skills, s.Sound) ∧
    (∀ s ∈ p.experiences, s.Sound) ∧ (∀ s ∈ p.projects, s.Sound) ∧
    (∀ s ∈ p.certifications, s.Sound) ∧ ∀ s ∈ p.achievements, s.Sound := by
  simp only [Sound, sections, List.forall_mem_append, and_assoc]

theorem ofFields_lists {o : Fields} {p : Snapshot} (h : ofFields o = .ok p) :
    ∀ l ∈ lists, Document.optional o (.plain l.1) [] (list Section.decode) = .ok (l.2 p) := by
  simp only [ofFields, Decoded.seq_eq_ok, Decoded.map_eq_ok] at h
  obtain ⟨_, contact, ⟨_, achievements, ⟨_, certifications, ⟨_, projects, ⟨_, experiences,
    ⟨_, skills, ⟨about, -, rfl⟩, hskills, rfl⟩, hexperiences, rfl⟩, hprojects, rfl⟩,
    hcertifications, rfl⟩, hachievements, rfl⟩, -, rfl⟩ := h
  simp only [lists, List.forall_mem_cons]
  exact ⟨hskills, hexperiences, hprojects, hcertifications, hachievements, by simp⟩

theorem ofFields_sound {o : Fields} {p : Snapshot} (h : ofFields o = .ok p) : p.Sound := by
  refine forall_mem_sections.2 fun l hl => ?_
  refine optional_induction (P := fun ss => ∀ s ∈ ss, s.Sound) (by simp) ?_ (ofFields_lists h l hl)
  intro v ss hdecode s hs
  obtain ⟨vs, -, hmem⟩ := mem_of_list hdecode
  obtain ⟨w, -, hw⟩ := hmem s hs
  exact Section.decode_sound hw

theorem ofRecords_rows {sections settings : Value} {p : Snapshot}
    (h : ofRecords sections settings = .ok p) : ∃ vs, members sections = .ok vs ∧
      ∀ s ∈ p.sections, ∃ row ∈ vs, Section.decode row = .ok s := by
  simp only [ofRecords, bind_eq_ok] at h
  obtain ⟨vs, hvs, rows, hrows, entries, -, pairs, -, contact, -, about, -, hp⟩ := h
  have hdecoded : ∀ s ∈ rows, ∃ row ∈ vs, Section.decode row = .ok s := by
    intro s hs
    obtain ⟨row, hmem, hrow⟩ := mem_of_mapM hrows s hs
    exact ⟨row, hmem, orInvalid_eq_ok.1 hrow⟩
  cases hp
  refine ⟨vs, hvs, forall_mem_sections.2 ?_⟩
  simp only [lists, List.forall_mem_cons]
  exact ⟨fun s hs => hdecoded s (mem_of_mem_ofKind hs),
    fun s hs => hdecoded s (mem_of_mem_ofKind hs), fun s hs => hdecoded s (mem_of_mem_ofKind hs),
    fun s hs => hdecoded s (mem_of_mem_ofKind hs), fun s hs => hdecoded s (mem_of_mem_ofKind hs),
    by simp⟩

/-- A snapshot was read from a record, from its rows when it holds sections. -/
theorem ofDocument_eq_ok {v : Value} {source : Option String} {p : Snapshot} :
    ofDocument v source = .ok p ↔ ∃ o, v = .record o ∧
      ((∃ sections, Fields.get? o "sections" = some sections ∧
          ofRecords sections ((Fields.get? o "settings").getD .null) = .ok p) ∨
        Fields.get? o "sections" = none ∧ ofFields o = .ok p) := by
  constructor
  · intro h
    unfold ofDocument at h
    split at h
    next o =>
      split at h
      next sections hsections =>
        split at h
        next hrecords =>
          cases h
          exact ⟨o, rfl, .inl ⟨sections, hsections, hrecords⟩⟩
        next => cases h
        next => cases h
      next hnone =>
        split at h
        next hfields =>
          cases h
          exact ⟨o, rfl, .inr ⟨hnone, hfields⟩⟩
        next => cases h
    next => cases h
  · rintro ⟨o, rfl, ⟨sections, hsections, h⟩ | ⟨hnone, h⟩⟩
    · simp only [ofDocument, hsections, h]
    · simp only [ofDocument, hnone, h]

theorem ofDocument_sound {v : Value} {source : Option String} {p : Snapshot}
    (h : ofDocument v source = .ok p) : p.Sound := by
  obtain ⟨o, -, ⟨sections, -, hrecords⟩ | ⟨-, hfields⟩⟩ := ofDocument_eq_ok.1 h
  · obtain ⟨vs, -, hrows⟩ := ofRecords_rows hrecords
    intro s hs
    obtain ⟨row, -, hrow⟩ := hrows s hs
    exact Section.decode_sound hrow
  · exact ofFields_sound hfields

theorem list_toDocument {ss : List Section} (h : ∀ s ∈ ss, s.Sound) (style : KeyStyle) :
    list Section.decode (.list (ss.map (·.toDocument style))) = .ok ss :=
  items_map 0 fun s hs => Section.decode_toDocument (h s hs) style

theorem decode_written {p : Snapshot} (h : p.Sound) (style : KeyStyle) (source : Option String) :
    ofDocument (p.toDocument style) source = .ok p := by
  obtain ⟨hskills, hexperiences, hprojects, hcertifications, hachievements⟩ := sound_iff.1 h
  cases style <;> simp [ofDocument, toDocument, ofFields, Document.optional, Fields.find?,
    Fields.get?, List.lookup, Spelling.plain, Spelling.key, Spelling.contactInfo,
    list_toDocument hskills, list_toDocument hexperiences, list_toDocument hprojects,
    list_toDocument hcertifications, list_toDocument hachievements, decode_contactInfo]

theorem isJson_toDocument (p : Snapshot) (style : KeyStyle) : (p.toDocument style).IsJson := by
  have hlist : ∀ ss : List Section, (Value.list (ss.map (·.toDocument style))).IsJson :=
    isJson_map (·.isJson_toDocument style)
  refine .record ?_
  simp only [List.forall_mem_cons]
  exact ⟨.text _, hlist _, hlist _, hlist _, hlist _, hlist _, isJson_contactInfo _, by simp⟩

/-- What was decoded, from a document of either shape, is written in either key style as a document
that is decoded to the same snapshot, and so written in the same way again. -/
theorem ofDocument_toDocument {v : Value} {source : Option String} {p : Snapshot}
    (h : ofDocument v source = .ok p) (style : KeyStyle) (again : Option String) :
    (p.toDocument style).IsJson ∧ ofDocument (p.toDocument style) again = .ok p ∧
      (ofDocument (p.toDocument style) again).map (toDocument style) =
        .ok (p.toDocument style) := by
  have hagain := decode_written (ofDocument_sound h) style again
  refine ⟨isJson_toDocument p style, hagain, ?_⟩
  rw [hagain]
  rfl

def mixedDocument : Value :=
  .record [
    ("skills", .list [
      .record [("id", .text "1"), ("type", .text "skill"), ("title", .text "Lean"),
        ("metadata", .record [("proficiency", .text "90")]), ("start_date", .text "2020-02-29")]]),
    ("experiences", .list [
      .record [("id", .text "2"), ("type", .text "experience"), ("title", .text "Engineer"),
        ("startDate", .text "2021-12-31T23:00:00.25-05:30"), ("endDate", .int 1700000000)]]),
    ("contact_info", .record [("socials", .record [("github", .text "https://github.com/me")])])]

theorem ofDocument_toDocument_mixed :
    ∃ p, ofDocument mixedDocument none = .ok p ∧ p.sections.length = 2 ∧
      (p.toDocument .snake).IsJson ∧ ofDocument (p.toDocument .snake) none = .ok p ∧
        (ofDocument (p.toDocument .snake) none).map (toDocument .snake) =
          .ok (p.toDocument .snake) := by
  have hread : (ofDocument mixedDocument none).toOption.map (·.sections.length) = some 2 := by
    decide +kernel
  obtain ⟨p, h, hlength⟩ := exists_of_toOption hread
  exact ⟨p, h, hlength, ofDocument_toDocument h .snake none⟩

end Snapshot

end Folio.Portfolio
