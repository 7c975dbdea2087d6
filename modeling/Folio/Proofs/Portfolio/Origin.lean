import Folio.Proofs.Portfolio.Rows
/-!
Where the sections of a snapshot come from: the records of the document that they are decoded from,
and the dates that those give.
-/

namespace Folio.Portfolio

open Folio.Document Folio.Time

theorem of?_orUtc (t : Moment) :
    Moment.of? t.date t.hour t.minute t.second t.micro (some (t.offset.getD 0)) = some t.orUtc := by
  obtain ⟨date, hour, minute, second, micro, offset, valid⟩ := t
  cases offset with
  | some minutes => exact dif_pos valid
  | none => exact dif_pos (by simpa [isOffset] using valid)

/-- What a date is read as: none where it is absent or null, and otherwise the given moment, which
is one in UTC when it carries no offset. -/
def ReadAs (d : Option Moment) : Option Value → Prop
  | none => d = none
  | some .null => d = none
  | some v => ∃ t, moment v = .ok t ∧ d.isSome ∧
      d = Moment.of? t.date t.hour t.minute t.second t.micro (some (t.offset.getD 0))

theorem readAs_some {v : Value} (hv : v ≠ .null) (d : Option Moment) : ReadAs d (some v) ↔
    ∃ t, moment v = .ok t ∧ d.isSome ∧
      d = Moment.of? t.date t.hour t.minute t.second t.micro (some (t.offset.getD 0)) := by
  cases v with
  | null => exact absurd rfl hv
  | _ => rfl

theorem readAs_of_utcMoment {v : Value} {d : Option Moment} (h : utcMoment v = .ok d) :
    ReadAs d (some v) := by
  obtain ⟨t?, ht, rfl⟩ := Decoded.map_eq_ok.1 h
  unfold nullable at ht
  split at ht
  next =>
    cases ht
    rfl
  next hnull =>
    obtain ⟨t, hmoment, rfl⟩ := Decoded.map_eq_ok.1 ht
    exact (readAs_some hnull _).2 ⟨t, hmoment, rfl, (of?_orUtc t).symm⟩

theorem readAs_of_optional {o : Fields} {s : Spelling} {d : Option Moment}
    (h : Document.optional o s none utcMoment = .ok d) : ReadAs d (o.value? s) := by
  have hfound := optional_eq_found.1 h
  cases hv : o.value? s with
  | none =>
    rw [hv] at hfound
    exact hfound
  | some v =>
    rw [hv] at hfound
    exact readAs_of_utcMoment hfound

def given (key : String) : Value → List Value
  | .record o =>
    match Fields.get? o "sections" with
    | some rows => rows.walked
    | none => ((Fields.get? o key).map Value.walked).getD []
  | _ => []

namespace Snapshot

theorem given_of_mem {v : Value} {source : Option String} {p : Snapshot}
    (h : ofDocument v source = .ok p) : ∀ l ∈ lists, ∀ s ∈ l.2 p,
      ∃ w ∈ given l.1 v, Section.decode w = .ok s := by
  intro l hl s hs
  obtain ⟨o, rfl, ⟨sections, hsections, hrecords⟩ | ⟨hnone, hfields⟩⟩ := ofDocument_eq_ok.1 h
  · obtain ⟨vs, hvs, hrows⟩ := ofRecords_rows hrecords
    simp only [given, hsections, ← (members_eq_ok.1 hvs).2]
    exact forall_mem_sections.1 hrows l hl s hs
  · have hlist := optional_eq_ok.1 (ofFields_lists hfields l hl)
    simp only [given, hnone]
    cases hget : Fields.get? o l.1 with
    | none =>
      rw [hget] at hlist
      rw [show l.2 p = [] from hlist] at hs
      cases hs
    | some w =>
      rw [hget] at hlist
      obtain ⟨vs, rfl, hmem⟩ := mem_of_list hlist
      exact hmem s hs

/-- Every section of a snapshot has the metadata of its own kind, a rating out of a hundred if it is
a skill, and dates that each name an instant. It was decoded from a record that the document gives
for its list, with each date read as that record gives it. -/
theorem ofDocument_given {v : Value} {source : Option String} {p : Snapshot}
    (h : ofDocument v source = .ok p) : ∀ l ∈ lists, ∀ s ∈ l.2 p,
      s.metadata.kind = s.kind ∧
      (∀ m, s.metadata = .skill m → 0 ≤ m.proficiency ∧ m.proficiency ≤ 100) ∧
      (∀ d ∈ Section.dates, ∀ t ∈ d.2 s, t.isAware = true) ∧
      ∃ o, .record o ∈ given l.1 v ∧ Section.kindOf? o = some s.kind ∧
        (∃ fields, Section.metadataOf? o = some fields ∧
          Metadata.ofFields s.kind fields = .ok s.metadata) ∧
        ∀ d ∈ Section.dates, ReadAs (d.2 s) (o.value? d.1) := by
  intro l hl s hs
  obtain ⟨w, hw, hdecode⟩ := given_of_mem h l hl s hs
  have hsound := Section.decode_sound hdecode
  obtain ⟨o, rfl, hfields⟩ := record_eq_ok.1 hdecode
  obtain ⟨fields, hgiven, hmetadata, haround⟩ := Section.ofFields_eq_ok.1 hfields
  obtain ⟨hkind, -, hdates⟩ := Section.around_eq_ok haround
  refine ⟨hsound.kind, ?_, ?_, o, hw, hkind, ⟨fields, hgiven, hmetadata⟩, ?_⟩
  · intro m hm
    have hrated := hsound.rated
    rw [hm] at hrated
    exact hrated
  · simp only [Section.dates, List.forall_mem_cons]
    exact ⟨hsound.start, hsound.stop, hsound.created, hsound.updated, by simp⟩
  · exact fun d hd => readAs_of_optional (hdates d hd)

def datedRows : Value :=
  .record [("sections", .list [
    .record [("id", .text "1"), ("type", .text "skill"), ("title", .text "Lean"),
      ("metadata", .record [("proficiency", .text "90")]), ("start_date", .text "2020-02-29"),
      ("endDate", .text "2021-12-31T23:00:00-05:30")],
    .record [("id", .text "2"), ("type", .text "project"), ("title", .text "Draft"),
      ("isVisible", .bool false)]])]

theorem ofDocument_given_rows : ∃ p s, ofDocument datedRows none = .ok p ∧
    p.sections.length = 1 ∧ s ∈ p.skills ∧ s.metadata.kind = s.kind ∧
    (∀ m, s.metadata = .skill m → 0 ≤ m.proficiency ∧ m.proficiency ≤ 100) ∧
    (∀ d ∈ Section.dates, ∀ t ∈ d.2 s, t.isAware = true) ∧
    s.startDate.map Moment.toIso = some "2020-02-29T00:00:00Z" ∧
    s.endDate.map Moment.toIso = some "2021-12-31T23:00:00-05:30" := by
  have hread : (ofDocument datedRows none).toOption.map (fun p => (p.sections.length,
      p.skills.map fun s => (s.startDate.map Moment.toIso, s.endDate.map Moment.toIso))) =
        some (1, [(some "2020-02-29T00:00:00Z", some "2021-12-31T23:00:00-05:30")]) := by
    decide +kernel
  obtain ⟨p, h, hp⟩ := exists_of_toOption hread
  obtain ⟨hlength, hskills⟩ := Prod.mk.inj hp
  obtain ⟨s, hs, hdates⟩ := List.mem_map.1 (hskills ▸ List.mem_singleton_self _)
  obtain ⟨hstart, hend⟩ := Prod.mk.inj hdates
  obtain ⟨hkind, hrated, haware, -⟩ :=
    ofDocument_given h ("skills", skills) List.mem_cons_self s hs
  exact ⟨p, s, h, hlength, hs, hkind, hrated, haware, hstart, hend⟩

end Snapshot

end Folio.Portfolio
