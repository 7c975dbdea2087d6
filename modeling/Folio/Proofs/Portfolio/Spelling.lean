import Folio.Proofs.Document.Spelling
import Folio.Proofs.Portfolio.Rows

namespace Folio.Portfolio

open Folio.Contact Folio.Document Decoded

namespace Metadata

def spellings : SectionKind → List Spelling
  | .skill => [.plain "category", .plain "proficiency", .plain "icon"]
  | .experience => [.plain "company", .plain "location", .plain "technologies"]
  | .project => [Spelling.techStack, Spelling.liveUrl, Spelling.githubUrl, .plain "tags"]
  | .certification => [.plain "issuer", Spelling.credentialId, Spelling.credentialUrl]
  | .achievement => [.plain "icon", .plain "category"]

def shape (kind : SectionKind) : Shape :=
  .flat (spellings kind) (by cases kind <;> decide +kernel)

def Respelled (kind : SectionKind) : Value → Value → Prop :=
  RecordRespelled (shape kind).Respelled

theorem ofFields_congr {kind : SectionKind} {o o' : Fields} (h : (shape kind).Respelled o o')
    (m : Metadata) : ofFields kind o = ok m ↔ ofFields kind o' = ok m := by
  have hsame : ∀ s ∈ spellings kind, o.value? s = o'.value? s := fun s hs =>
    h.value?_eq (List.mem_map_of_mem hs) fun _ _ hv => hv
  cases kind <;> simp only [spellings, List.forall_mem_cons] at hsame <;>
    simp only [ofFields, SkillMetadata.ofFields, ExperienceMetadata.ofFields,
      ProjectMetadata.ofFields, CertificationMetadata.ofFields, AchievementMetadata.ofFields,
      seq_eq_ok, map_eq_ok, optional_eq_found, hsame]

end Metadata

namespace Section

def spellings : List Spelling :=
  [.plain "id", .plain "type", .plain "title", .plain "description", Spelling.imageUrl,
    Spelling.startDate, Spelling.endDate, Spelling.displayOrder, Spelling.isFeatured,
    Spelling.isVisible, Spelling.createdAt, Spelling.updatedAt]

theorem apart_spellings : (Spelling.plain "metadata" :: spellings).Pairwise Spelling.Apart := by
  decide +kernel

def shape (kind? : Option SectionKind) : Shape where
  fields := (.plain "metadata", fun v v' => ∀ kind ∈ kind?, Metadata.Respelled kind v v') ::
    spellings.map fun s => (s, Eq)
  apart := apart_spellings
  refl := List.forall_mem_cons.2 ⟨fun v _ _ => .same v, List.forall_mem_map.2 fun _ _ _ => rfl⟩

def Respelled : Value → Value → Prop :=
  RecordRespelled fun o o' => (shape (kindOf? o)).Respelled o o'

variable {o o' : Fields}

theorem around_congr (h : ∀ s ∈ spellings, o.value? s = o'.value? s) (metadata : Decoded Metadata)
    (s : Section) : around o metadata = ok s ↔ around o' metadata = ok s := by
  simp only [spellings, List.forall_mem_cons] at h
  simp only [around, seq_eq_ok, map_eq_ok, required_eq_ok, optional_eq_found, h]

theorem metadata_congr {kind : SectionKind} (hkind : kindOf? o = some kind)
    (h : (shape (kindOf? o)).Respelled o o') (m : Metadata) :
    (∃ fields, metadataOf? o = some fields ∧ Metadata.ofFields kind fields = ok m) ↔
      ∃ fields, metadataOf? o' = some fields ∧ Metadata.ofFields kind fields = ok m := by
  have hrel := h.value?_rel List.mem_cons_self
  rw [value?_plain, value?_plain] at hrel
  unfold metadataOf?
  generalize o.get? "metadata" = x, o'.get? "metadata" = x' at hrel
  cases hrel with
  | none => rfl
  | some hv =>
    cases hv kind hkind with
    | same => rfl
    | record hfields => simp [Metadata.ofFields_congr hfields]

theorem ofFields_congr (h : (shape (kindOf? o)).Respelled o o') (s : Section) :
    ofFields o = ok s ↔ ofFields o' = ok s := by
  have hsame : ∀ s ∈ spellings, o.value? s = o'.value? s := fun s hs =>
    h.value?_eq (List.mem_cons_of_mem _ (List.mem_map_of_mem hs)) fun _ _ hv => hv
  simp only [ofFields_eq_ok, ← and_assoc, exists_and_right, ← around_congr hsame]
  exact and_congr_left fun haround => metadata_congr (around_eq_ok haround).1 h s.metadata

theorem decode_respects : Respects Respelled decode :=
  record_respects fun _ _ => ofFields_congr

end Section

def contactShape : Shape :=
  .flat [.plain "email", .plain "socials"] (by decide +kernel)

def ContactRespelled : Value → Value → Prop :=
  RecordRespelled contactShape.Respelled

theorem ContactRespelled.eq {v v' : Value} (h : ContactRespelled v v') : v = v' :=
  RecordRespelled.eq (fun _ _ ho => ho.eq_of_plain
    (by simp [contactShape, Shape.flat, Spelling.plain])) h

theorem contact_respects : Respects ContactRespelled ContactInfo.decode := by
  intro v v' h c
  rw [h.eq]

def settingShape : Shape where
  fields := [(.plain "value", ContactRespelled)]
  apart := List.pairwise_singleton _ _
  refl := List.forall_mem_singleton.2 .same

def SettingRespelled : Value → Value → Prop :=
  RecordRespelled fun o o' =>
    Fields.get? o "key" = some (.text "contact_info") ∧ settingShape.Respelled o o'

theorem SettingRespelled.eq {v v' : Value} (h : SettingRespelled v v') : v = v' := by
  refine RecordRespelled.eq (fun o o' ho => ho.2.eq_of_plain fun f hf => ?_) h
  cases List.mem_singleton.1 hf
  exact ⟨rfl, fun _ _ => ContactRespelled.eq⟩

namespace Snapshot

theorem apart_spellings : (.plain "about" :: Spelling.contactInfo ::
    lists.map fun l => Spelling.plain l.1).Pairwise Spelling.Apart := by
  decide +kernel

def shape : Shape where
  fields := (.plain "about", Eq) :: (Spelling.contactInfo, ContactRespelled) ::
    lists.map fun l => (.plain l.1, ListRespelled Section.Respelled)
  apart := by exact apart_spellings
  refl := List.forall_mem_cons.2 ⟨fun _ => rfl, List.forall_mem_cons.2 ⟨.same,
    List.forall_mem_map.2 fun _ _ => .same⟩⟩

def rowsShape : Shape where
  fields := [(.plain "sections", ListRespelled Section.Respelled),
    (.plain "settings", ListRespelled SettingRespelled)]
  apart := by decide +kernel
  refl := List.forall_mem_cons.2 ⟨.same, List.forall_mem_singleton.2 .same⟩

def documentShape (o : Fields) : Shape :=
  if (Fields.get? o "sections").isSome then rowsShape else shape

/-- Some keys of a document, of its sections, of their metadata and of its contact information
become the other spelling of their field. -/
def Respelled : Value → Value → Prop :=
  RecordRespelled fun o o' => (documentShape o).Respelled o o'

theorem ofFields_congr {o o' : Fields} (h : shape.Respelled o o') (p : Snapshot) :
    ofFields o = ok p ↔ ofFields o' = ok p := by
  have habout : o.value? (.plain "about") = o'.value? (.plain "about") :=
    h.value?_eq List.mem_cons_self fun _ _ hv => hv
  have hlists : ∀ l ∈ lists, ∀ ss, Document.optional o (.plain l.1) [] (list Section.decode) =
      ok ss ↔ Document.optional o' (.plain l.1) [] (list Section.decode) = ok ss := fun l hl =>
    optional_congr (list_respects Section.decode_respects)
      (h.value?_rel (List.mem_cons_of_mem _ (List.mem_cons_of_mem _ (List.mem_map_of_mem hl)))) []
  have hcontact := optional_congr contact_respects
    (h.value?_rel (List.mem_cons_of_mem _ List.mem_cons_self)) {}
  simp only [lists, List.forall_mem_cons] at hlists
  simp only [ofFields, seq_eq_ok, map_eq_ok, optional_eq_found (s := .plain "about"), habout,
    hlists, hcontact]

theorem rows_congr {v v' : Value} (h : ListRespelled Section.Respelled v v') :
    v.isWalkable = v'.isWalkable ∧ ∀ rows,
      v.walked.mapM (fun row => orInvalid (Section.decode row)) = .ok rows ↔
        v'.walked.mapM (fun row => orInvalid (Section.decode row)) = .ok rows := by
  cases h with
  | same => exact ⟨rfl, fun _ => Iff.rfl⟩
  | list hvs =>
    refine ⟨rfl, fun rows => mapM_congr hvs fun row row' hrow s => ?_⟩
    rw [orInvalid_eq_ok, orInvalid_eq_ok, Section.decode_respects _ _ hrow]

theorem ofRecords_congr {sections sections' : Value}
    (h : ListRespelled Section.Respelled sections sections') (settings : Value) (p : Snapshot) :
    ofRecords sections settings = .ok p ↔ ofRecords sections' settings = .ok p := by
  obtain ⟨hwalk, hrows⟩ := rows_congr h
  simp only [ofRecords, bind_eq_ok, members_eq_ok, hwalk]
  constructor
  · rintro ⟨_, ⟨hw, rfl⟩, rows, hdecode, hrest⟩
    exact ⟨_, ⟨hw, rfl⟩, rows, (hrows rows).1 hdecode, hrest⟩
  · rintro ⟨_, ⟨hw, rfl⟩, rows, hdecode, hrest⟩
    exact ⟨_, ⟨hw, rfl⟩, rows, (hrows rows).2 hdecode, hrest⟩

theorem misshapen_congr {sections sections' : Value}
    (h : ListRespelled Section.Respelled sections sections') (settings : Value) :
    Misshapen sections settings ↔ Misshapen sections' settings := by
  obtain ⟨hwalk, hrows⟩ := rows_congr h
  simp only [Misshapen, ← exists_rows_iff, hwalk, hrows]

theorem not_names_sections : ∀ f ∈ shape.fields, ¬ f.1.Names "sections" := by
  simp only [shape, List.forall_mem_cons, List.forall_mem_map]
  decide +kernel

theorem documentShape_cases {o o' : Fields} (h : (documentShape o).Respelled o o') :
    (Fields.get? o "sections" = none ∧ Fields.get? o' "sections" = none ∧
        shape.Respelled o o') ∨
      ∃ sections sections', Fields.get? o "sections" = some sections ∧
        Fields.get? o' "sections" = some sections' ∧
        ListRespelled Section.Respelled sections sections' ∧
        Fields.get? o "settings" = Fields.get? o' "settings" := by
  unfold documentShape at h
  cases hsections : Fields.get? o "sections" with
  | none =>
    rw [hsections] at h
    exact .inl ⟨rfl, by rw [← h.get?_eq not_names_sections, hsections], h⟩
  | some sections =>
    rw [hsections] at h
    have hrows := h.value?_rel List.mem_cons_self
    have hsettings := h.value?_eq (List.mem_cons_of_mem _ List.mem_cons_self) fun _ _ =>
      ListRespelled.eq fun _ _ => SettingRespelled.eq
    rw [value?_plain, value?_plain] at hrows hsettings
    rw [hsections] at hrows
    generalize hsections' : Fields.get? o' "sections" = x at hrows
    cases hrows with
    | some hrows => exact .inr ⟨_, _, rfl, rfl, hrows, hsettings⟩

/-- Whichever spelling keys have, a document is read as the same snapshot or as none, and then it is
refused under both spellings or stops the reading under both. -/
theorem ofDocument_respelled {v v' : Value} (h : Respelled v v') (source : Option String) :
    (∀ p, ofDocument v source = .ok p ↔ ofDocument v' source = .ok p) ∧
      (Accounted source (ofDocument v source) ↔ Accounted source (ofDocument v' source)) := by
  cases h with
  | same => exact ⟨fun _ => Iff.rfl, Iff.rfl⟩
  | record ho =>
    rw [accounted_ofDocument_iff, accounted_ofDocument_iff]
    obtain ⟨hnone, hnone', ho⟩ | ⟨sections, sections', hsome, hsome', hrows, hsettings⟩ :=
      documentShape_cases ho
    · refine ⟨fun p => ?_, ?_⟩
      · simp [ofDocument_eq_ok, hnone, hnone', ofFields_congr ho]
      · simp [HoldsMisshapen, hnone, hnone']
    · refine ⟨fun p => ?_, ?_⟩
      · simp [ofDocument_eq_ok, hsome, hsome', hsettings, ofRecords_congr hrows]
      · simp [HoldsMisshapen, hsome, hsome', hsettings, misshapen_congr hrows]

def project (start featured stack : String) : Value :=
  .record [("id", .text "1"), ("type", .text "project"), ("title", .text "Prover"),
    ("metadata", .record [(stack, .list [.text "Lean"]), ("live_url", .null)]),
    (start, .text "2020-02-29"), (featured, .bool true)]

theorem project_respelled : Section.Respelled (project "startDate" "is_featured" "techStack")
    (project "start_date" "isFeatured" "tech_stack") := by
  have hfield : ∀ s ∈ Section.spellings, (s, Eq) ∈ (Section.shape (some .project)).fields :=
    fun s hs => List.mem_cons_of_mem _ (List.mem_map_of_mem hs)
  refine .record ⟨.cons (.inl rfl) (.cons (.inl rfl) (.cons (.inl rfl) (.cons ?_ (.cons ?_
    (.cons ?_ .nil))))), by decide +kernel⟩
  · refine .inr ⟨_, List.mem_cons_self, .inl rfl, .inl rfl, fun kind hkind => ?_⟩
    cases hkind
    exact .record ⟨.cons (.inr ⟨_, List.mem_cons_self, .inl rfl, .inr rfl, rfl⟩)
      (.cons (.inl rfl) .nil), by decide +kernel⟩
  · exact .inr ⟨_, hfield Spelling.startDate (by decide), .inl rfl, .inr rfl, rfl⟩
  · exact .inr ⟨_, hfield Spelling.isFeatured (by decide), .inr rfl, .inl rfl, rfl⟩

def projectDocument (contact : String) (project : Value) : Value :=
  .record [("projects", .list [project]), (contact, .record [("email", .text "me@example.com")])]

def projectRows (project : Value) : Value :=
  .record [("sections", .list [project])]

theorem projectDocument_respelled :
    Respelled (projectDocument "contactInfo" (project "startDate" "is_featured" "techStack"))
      (projectDocument "contact_info" (project "start_date" "isFeatured" "tech_stack")) := by
  have hfield : (.plain "projects", ListRespelled Section.Respelled) ∈ shape.fields := by
    simp [shape, lists]
  refine .record ⟨.cons ?_ (.cons ?_ .nil), by decide +kernel⟩
  · exact .inr ⟨_, hfield, .inl rfl, .inl rfl, .list (.cons project_respelled .nil)⟩
  · exact .inr ⟨_, List.mem_cons_of_mem _ List.mem_cons_self, .inl rfl, .inr rfl, .same _⟩

theorem projectRows_respelled :
    Respelled (projectRows (project "startDate" "is_featured" "techStack"))
      (projectRows (project "start_date" "isFeatured" "tech_stack")) :=
  .record ⟨.cons (.inr ⟨_, List.mem_cons_self, .inl rfl, .inl rfl,
    .list (.cons project_respelled .nil)⟩) .nil, by decide +kernel⟩

theorem ofDocument_respelled_project : ∃ p q : Snapshot,
    ofDocument (projectDocument "contactInfo" (project "startDate" "is_featured" "techStack"))
      none = .ok p ∧
    ofDocument (projectDocument "contact_info" (project "start_date" "isFeatured" "tech_stack"))
      none = .ok p ∧
    ofDocument (projectRows (project "startDate" "is_featured" "techStack")) none = .ok q ∧
    ofDocument (projectRows (project "start_date" "isFeatured" "tech_stack")) none = .ok q ∧
    p.projects.length = 1 ∧ q.projects.length = 1 := by
  have hdata : (ofDocument (projectDocument "contactInfo"
      (project "startDate" "is_featured" "techStack")) none).toOption.map (·.projects.length) =
        some 1 := by
    decide +kernel
  have hrows : (ofDocument (projectRows (project "startDate" "is_featured" "techStack"))
      none).toOption.map (·.projects.length) = some 1 := by
    decide +kernel
  obtain ⟨p, hp, hlength⟩ := exists_of_toOption hdata
  obtain ⟨q, hq, hlength'⟩ := exists_of_toOption hrows
  exact ⟨p, q, hp, ((ofDocument_respelled projectDocument_respelled none).1 p).1 hp, hq,
    ((ofDocument_respelled projectRows_respelled none).1 q).1 hq, hlength, hlength'⟩

end Snapshot

end Folio.Portfolio
