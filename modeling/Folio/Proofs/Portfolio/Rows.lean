import Folio.Proofs.Portfolio.Snapshot

namespace Folio.Document.Value

def isWalkable : Value → Bool
  | list _ => true
  | record _ => true
  | text _ => true
  | v => !v.isTruthy

def walked (v : Value) : List Value := v.members?.getD []

end Folio.Document.Value

namespace Folio.Portfolio

open Folio.Document

theorem members_walkable {v : Value} (h : v.isWalkable = true) : members v = .ok v.walked := by
  unfold members
  cases v with
  | list items => cases items <;> rfl
  | record fields => cases fields <;> rfl
  | text s =>
    split
    · rfl
    next hs =>
      have hempty : s = "" := by simpa [Value.isTruthy] using hs
      rw [hempty]
      rfl
  | _ => simp_all [Value.isWalkable, Value.walked, Value.members?]

theorem members_unwalkable {v : Value} (h : v.isWalkable = false) :
    members v = .error (.fault (.notIterable v.kindName)) := by
  unfold members
  cases v with
  | list items => cases h
  | record fields => cases h
  | text s => cases h
  | _ => simp_all [Value.isWalkable, Value.members?]

theorem members_eq_ok {v : Value} {vs : List Value} :
    members v = .ok vs ↔ v.isWalkable = true ∧ vs = v.walked := by
  cases hw : v.isWalkable with
  | true =>
    rw [members_walkable hw]
    exact ⟨fun h => ⟨rfl, (Except.ok.inj h).symm⟩, fun h => congrArg Except.ok h.2.symm⟩
  | false =>
    rw [members_unwalkable hw]
    exact ⟨nofun, nofun⟩

def isSetting : Value → Bool
  | .record fields =>
    match (Fields.get? fields "key").getD .null with
    | .list _ => false
    | .record _ => false
    | _ => true
  | _ => false

theorem setting_ok {row : Value} (h : isSetting row = true) : ∃ entry, setting row = .ok entry := by
  unfold isSetting at h
  split at h
  next fields =>
    split at h
    next => cases h
    next => cases h
    next hlist hrecord =>
      unfold setting
      dsimp only
      split
      next hkey => exact absurd hkey (hlist _)
      next hkey => exact absurd hkey (hrecord _)
      next => exact ⟨_, rfl⟩
  next => cases h

theorem setting_fault {row : Value} (h : isSetting row = false) :
    ∃ f, setting row = .error (.fault f) := by
  unfold isSetting at h
  split at h
  next fields =>
    split at h
    next hkey =>
      unfold setting
      dsimp only
      rw [hkey]
      exact ⟨_, rfl⟩
    next hkey =>
      unfold setting
      dsimp only
      rw [hkey]
      exact ⟨_, rfl⟩
    next => cases h
  next hrecord =>
    unfold setting
    split
    next fields => exact absurd rfl (hrecord fields)
    next => exact ⟨_, rfl⟩

theorem setting_error {row : Value} {e : RowsError} (h : setting row = .error e) :
    ∃ f, e = .fault f := by
  cases hs : isSetting row with
  | true =>
    obtain ⟨entry, hentry⟩ := setting_ok hs
    rw [hentry] at h
    cases h
  | false =>
    obtain ⟨f, hf⟩ := setting_fault hs
    rw [hf] at h
    cases h
    exact ⟨f, rfl⟩

theorem orInvalid_ne_fault {x : Decoded α} {f : RowFault} : orInvalid x ≠ .error (.fault f) := by
  cases x <;> exact nofun

/-- Rows that cannot be read as rows: the sections cannot be walked through, or they are all sound
and the settings cannot, or one of the settings is none. Sections that fail come first. -/
def Misshapen (sections settings : Value) : Prop :=
  sections.isWalkable = false ∨
    (∀ row ∈ sections.walked, ∃ s, Section.decode row = .ok s) ∧
      (settings.isWalkable = false ∨ ∃ row ∈ settings.walked, isSetting row = false)

theorem exists_rows_iff {rows : List Value} :
    (∃ ss, rows.mapM (fun row => orInvalid (Section.decode row)) = .ok ss) ↔
      ∀ row ∈ rows, ∃ s, Section.decode row = .ok s := by
  simp only [exists_mapM_iff, orInvalid_eq_ok]

namespace Snapshot

theorem misshapen_of_fault {sections settings : Value} {f : RowFault}
    (h : ofRecords sections settings = .error (.fault f)) : Misshapen sections settings := by
  simp only [ofRecords, bind_eq_error] at h
  cases hsections : sections.isWalkable with
  | false => exact .inl hsections
  | true =>
    rw [members_walkable hsections] at h
    obtain hwalk | ⟨rows, hwalk, h⟩ := h
    · cases hwalk
    cases hwalk
    obtain hdecode | ⟨ss, hdecode, h⟩ := h
    · obtain ⟨row, -, hrow⟩ := mem_of_mapM_error hdecode
      exact absurd hrow orInvalid_ne_fault
    -- The rows were read, so the fault is one of the settings.
    refine .inr ⟨exists_rows_iff.1 ⟨ss, hdecode⟩, ?_⟩
    cases hsettings : settings.isWalkable with
    | false => exact .inl rfl
    | true =>
      rw [members_walkable hsettings] at h
      obtain hwalk | ⟨rows, hwalk, h⟩ := h
      · cases hwalk
      cases hwalk
      obtain hentry | ⟨entries, -, h⟩ := h
      · obtain ⟨row, hrow, hfault⟩ := mem_of_mapM_error hentry
        refine .inr ⟨row, hrow, ?_⟩
        rw [Bool.eq_false_iff]
        intro hs
        obtain ⟨entry, hok⟩ := setting_ok hs
        rw [hok] at hfault
        cases hfault
      · obtain hcontact | ⟨contact, -, h⟩ := h
        · exact absurd hcontact orInvalid_ne_fault
        · obtain habout | ⟨about, -, h⟩ := h
          · exact absurd habout orInvalid_ne_fault
          · cases h

theorem fault_of_misshapen {sections settings : Value} (h : Misshapen sections settings) :
    ∃ f, ofRecords sections settings = .error (.fault f) := by
  cases hsections : sections.isWalkable with
  | false =>
    refine ⟨.notIterable sections.kindName, ?_⟩
    rw [ofRecords, members_unwalkable hsections]
    rfl
  | true =>
    obtain hno | ⟨hrows, hsettings⟩ := h
    · rw [hsections] at hno
      cases hno
    obtain ⟨ss, hss⟩ := exists_rows_iff.2 hrows
    cases hwalk : settings.isWalkable with
    | false =>
      refine ⟨.notIterable settings.kindName, ?_⟩
      simp only [ofRecords, members_walkable hsections, members_unwalkable hwalk, hss, bind,
        Except.bind]
    | true =>
      obtain hno | ⟨row, hrow, hbad⟩ := hsettings
      · rw [hwalk] at hno
        cases hno
      cases hentries : settings.walked.mapM setting with
      | ok entries =>
        obtain ⟨entry, hentry⟩ := exists_mapM_iff.1 ⟨entries, hentries⟩ row hrow
        obtain ⟨f, hf⟩ := setting_fault hbad
        rw [hf] at hentry
        cases hentry
      | error e =>
        obtain ⟨row', -, hrow'⟩ := mem_of_mapM_error hentries
        obtain ⟨f, rfl⟩ := setting_error hrow'
        refine ⟨f, ?_⟩
        simp only [ofRecords, members_walkable hsections, members_walkable hwalk, hss, hentries,
          bind, Except.bind]

theorem fault_iff {sections settings : Value} :
    (∃ f, ofRecords sections settings = .error (.fault f)) ↔ Misshapen sections settings :=
  ⟨fun ⟨_, h⟩ => misshapen_of_fault h, fault_of_misshapen⟩

end Snapshot

def HoldsMisshapen : Value → Prop
  | .record o => ∃ sections, Fields.get? o "sections" = some sections ∧
      Misshapen sections ((Fields.get? o "settings").getD .null)
  | _ => False

def Accounted (source : Option String) (x : Except LoadError Snapshot) : Prop :=
  (∃ p, x = .ok p) ∨ ∃ reason, x = .error (.unusable reason source)

theorem stopped_ofDocument {v : Value} (h : HoldsMisshapen v) (source : Option String) :
    ∃ f, Snapshot.ofDocument v source = .error (.rows f) := by
  cases v with
  | record o =>
    obtain ⟨sections, hsections, hrows⟩ := h
    obtain ⟨f, hf⟩ := Snapshot.fault_iff.2 hrows
    exact ⟨f, by simp only [Snapshot.ofDocument, hsections, hf]⟩
  | _ => cases h

theorem accounted_ofDocument {v : Value} (h : ¬ HoldsMisshapen v) (source : Option String) :
    Accounted source (Snapshot.ofDocument v source) := by
  cases v with
  | record o =>
    simp only [Snapshot.ofDocument]
    cases hsections : Fields.get? o "sections" with
    | none =>
      cases Snapshot.ofFields o with
      | ok p => exact .inl ⟨p, rfl⟩
      | failed issues => exact .inr ⟨.invalid issues, rfl⟩
    | some sections =>
      dsimp only
      cases hrecords : Snapshot.ofRecords sections ((Fields.get? o "settings").getD .null) with
      | ok p => exact .inl ⟨p, rfl⟩
      | error e =>
        cases e with
        | fault f => exact absurd ⟨sections, hsections, Snapshot.fault_iff.1 ⟨f, hrecords⟩⟩ h
        | invalid issues => exact .inr ⟨.invalid issues, rfl⟩
  | _ => exact .inr ⟨.notRecord, rfl⟩

theorem accounted_ofDocument_iff (v : Value) (source : Option String) :
    Accounted source (Snapshot.ofDocument v source) ↔ ¬ HoldsMisshapen v := by
  refine ⟨?_, fun h => accounted_ofDocument h source⟩
  intro haccounted hmisshapen
  obtain ⟨f, hf⟩ := stopped_ofDocument hmisshapen source
  rw [hf] at haccounted
  rcases haccounted with ⟨p, ⟨⟩⟩ | ⟨reason, ⟨⟩⟩

theorem sections_number_stops :
    Snapshot.ofDocument (.record [("sections", .int 5)]) (some "rows.json") =
        .error (.rows (.notIterable "int")) ∧
      ¬ Accounted (some "rows.json")
        (Snapshot.ofDocument (.record [("sections", .int 5)]) (some "rows.json")) := by
  refine ⟨rfl, ?_⟩
  rintro (⟨p, ⟨⟩⟩ | ⟨reason, ⟨⟩⟩)

end Folio.Portfolio
