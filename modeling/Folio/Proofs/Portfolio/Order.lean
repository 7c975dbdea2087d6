import Folio.Proofs.Portfolio.Rows
import Folio.Proofs.Sorted

namespace Folio.Portfolio

open Folio.Contact Folio.Document

/-- A list of given sections in display order, those of one order as they were given. -/
structure InOrder (listed given : List Section) : Prop where
  perm : listed.Perm given
  ordered : listed.Pairwise fun a b => a.displayOrder ≤ b.displayOrder
  stable : ∀ n, listed.filter (·.displayOrder = n) = given.filter (·.displayOrder = n)

section Order

variable {listed listed' given : List Section}

theorem InOrder.unique (h : InOrder listed given) (h' : InOrder listed' given) :
    listed = listed' :=
  eq_of_filters Section.displayOrder h.ordered h'.ordered
    fun n => (h.stable n).trans (h'.stable n).symm

theorem InOrder.filter (h : InOrder listed given) (p : Section → Bool) :
    InOrder (listed.filter p) (given.filter p) where
  perm := h.perm.filter p
  ordered := h.ordered.filter p
  stable n := by
    rw [List.filter_comm, h.stable, List.filter_comm]

theorem inOrder_mergeSort (given : List Section) :
    InOrder (given.mergeSort fun a b => a.displayOrder ≤ b.displayOrder) given where
  perm := List.mergeSort_perm given _
  ordered := pairwise_sorted Section.displayOrder given
  stable := filter_sorted Section.displayOrder given

theorem inOrder_ofKind (kind : SectionKind) (rows : List Section) :
    InOrder (ofKind kind (displayed rows)) (rows.filter fun s => s.isVisible && s.kind = kind) := by
  have h := (inOrder_mergeSort (rows.filter (·.isVisible))).filter (·.kind = kind)
  rw [List.filter_filter] at h
  simpa [ofKind, displayed, Bool.and_comm] using h

theorem ofKind_displayed_congr {kind : SectionKind} {rows rows' : List Section}
    (h : ofKind kind rows = ofKind kind rows') :
    ofKind kind (displayed rows) = ofKind kind (displayed rows') := by
  have hvisible : ∀ rows : List Section,
      (rows.filter fun s => s.isVisible && s.kind = kind) =
        (ofKind kind rows).filter (·.isVisible) :=
    fun rows => List.filter_filter.symm
  refine (inOrder_ofKind kind rows).unique ?_
  rw [hvisible, h, ← hvisible]
  exact inOrder_ofKind kind rows'

theorem count_ofKind (kind : SectionKind) (rows : List Section) (s : Section) :
    (ofKind kind rows).count s = if s.kind = kind then rows.count s else 0 := by
  split
  next h => exact List.count_filter (by simpa using h)
  next h => exact List.count_eq_zero.2 fun hs => h (by simpa using (List.mem_filter.1 hs).2)

end Order

def rowKind? : Value → Option SectionKind
  | .record o => Section.kindOf? o
  | _ => none

theorem rowKind?_of_decode {row : Value} {s : Section} (h : Section.decode row = .ok s) :
    rowKind? row = some s.kind := by
  obtain ⟨o, rfl, hfields⟩ := record_eq_ok.1 h
  obtain ⟨-, -, -, haround⟩ := Section.ofFields_eq_ok.1 hfields
  exact (Section.around_eq_ok haround).1

def Hold (rows : List Value) (ss : List Section) : Prop :=
  List.Forall₂ (fun row s => Section.decode row = .ok s) rows ss

namespace Hold

variable {rows rows' : List Value} {ss ss' : List Section}

theorem unique (h : Hold rows ss) (h' : Hold rows ss') : ss = ss' := by
  refine List.right_unique_forall₂' (fun row s s' hs hs' => ?_) h h'
  rw [hs] at hs'
  exact Decoded.ok.inj hs'

theorem ofKind (h : Hold rows ss) (kind : SectionKind) :
    Hold (rows.filter (rowKind? · = some kind)) (ofKind kind ss) := by
  refine List.rel_filter (fun row s hs => ?_) h
  simp [rowKind?_of_decode hs]

end Hold

def Settle (settings : List Value) (about : String) (contact : ContactInfo) : Prop :=
  ∃ entries, settings.mapM setting = .ok entries ∧
    ContactInfo.decode ((lookUp "contact_info" entries).getD (.record [])) = .ok contact ∧
    text (aboutText entries) = .ok about

namespace Snapshot

def sectionsOf (p : Snapshot) : SectionKind → List Section
  | .skill => p.skills
  | .experience => p.experiences
  | .project => p.projects
  | .certification => p.certifications
  | .achievement => p.achievements

def showing (about : String) (contact : ContactInfo) (shown : List Section) : Snapshot where
  about := about
  skills := Portfolio.ofKind .skill shown
  experiences := Portfolio.ofKind .experience shown
  projects := Portfolio.ofKind .project shown
  certifications := Portfolio.ofKind .certification shown
  achievements := Portfolio.ofKind .achievement shown
  contactInfo := contact

variable {about : String} {contact : ContactInfo} {shown shown' : List Section}

theorem sectionsOf_showing (kind : SectionKind) :
    (showing about contact shown).sectionsOf kind = Portfolio.ofKind kind shown := by
  cases kind <;> rfl

theorem showing_congr (h : ∀ kind, Portfolio.ofKind kind shown = Portfolio.ofKind kind shown') :
    showing about contact shown = showing about contact shown' := by
  simp only [showing, h]

theorem perm_showing : (showing about contact shown).sections.Perm shown := by
  rw [List.perm_iff_count]
  intro s
  simp only [sections, showing, List.count_append, count_ofKind]
  cases s.kind <;> simp

theorem ofRecords_eq_ok {rows settings : List Value} {p : Snapshot} :
    ofRecords (.list rows) (.list settings) = .ok p ↔ ∃ ss about contact,
      Hold rows ss ∧ Settle settings about contact ∧ p = showing about contact (displayed ss) := by
  have hmembers : ∀ vs, members (.list vs) = .ok vs := fun vs => members_walkable rfl
  simp only [ofRecords, hmembers, bind_eq_ok, mapM_eq_ok, orInvalid_eq_ok, Decoded.under_eq_ok,
    Hold, Settle]
  constructor
  · rintro ⟨_, h, ss, hss, _, h', entries, hentries, contact, hcontact, about, habout, hp⟩
    cases h
    cases h'
    cases hp
    exact ⟨ss, about, contact, hss, ⟨entries, hentries, hcontact, habout⟩, rfl⟩
  · rintro ⟨ss, about, contact, hss, ⟨entries, hentries, hcontact, habout⟩, rfl⟩
    exact ⟨_, rfl, ss, hss, _, rfl, entries, hentries, contact, hcontact, about, habout, rfl⟩

/-- Sound rows and settings make a snapshot. Each of its lists has the visible sections of its kind
in display order, those of one order as their rows stand; no other rows matter to it. -/
theorem ofRecords_grouped {rows settings : List Value} {ss : List Section} {about : String}
    {contact : ContactInfo} (hrows : Hold rows ss) (hsettings : Settle settings about contact) :
    ∃ p, ofRecords (.list rows) (.list settings) = .ok p ∧
      p.about = about ∧ p.contactInfo = contact ∧
      (∀ kind, InOrder (p.sectionsOf kind) (ss.filter fun s => s.isVisible && s.kind = kind)) ∧
      p.sections.Perm (ss.filter (·.isVisible)) ∧
      ∀ rows' ss', Hold rows' ss' →
        (∀ kind, rows'.filter (rowKind? · = some kind) = rows.filter (rowKind? · = some kind)) →
        ofRecords (.list rows') (.list settings) = .ok p := by
  refine ⟨showing about contact (displayed ss), ?_, rfl, rfl, fun kind => ?_, ?_, ?_⟩
  · exact ofRecords_eq_ok.2 ⟨ss, about, contact, hrows, hsettings, rfl⟩
  · rw [sectionsOf_showing]
    exact inOrder_ofKind kind ss
  · exact perm_showing.trans (List.mergeSort_perm _ _)
  · intro rows' ss' hrows' hkinds
    have hsame : ∀ kind, Portfolio.ofKind kind ss = Portfolio.ofKind kind ss' := by
      intro kind
      refine (hrows.ofKind kind).unique ?_
      rw [← hkinds kind]
      exact hrows'.ofKind kind
    refine ofRecords_eq_ok.2 ⟨ss', about, contact, hrows', hsettings, ?_⟩
    exact showing_congr fun kind => ofKind_displayed_congr (hsame kind)

def storeRow (id type : String) (order : Int) (more : Fields) : Value :=
  .record ([("id", .text id), ("type", .text type), ("title", .text id),
    ("displayOrder", .int order)] ++ more)

def mixedRows : List Value :=
  [storeRow "Lean" "skill" 1 [], storeRow "Compiler" "project" (-2) [],
    storeRow "Coq" "skill" (10 ^ 30) [], storeRow "Draft" "skill" 0 [("is_visible", .bool false)],
    storeRow "Rust" "skill" 1 [], storeRow "Engineer" "experience" 5 [],
    storeRow "C" "skill" (-7) []]

def sortedRows : List Value :=
  [storeRow "Engineer" "experience" 5 [], storeRow "Compiler" "project" (-2) [],
    storeRow "Lean" "skill" 1 [], storeRow "Coq" "skill" (10 ^ 30) [],
    storeRow "Draft" "skill" 0 [("is_visible", .bool false)], storeRow "Rust" "skill" 1 [],
    storeRow "C" "skill" (-7) []]

def mixedSettings : List Value :=
  [.record [("key", .text "about"), ("value", .record [("text", .text "I prove things.")])]]

theorem ofRecords_grouped_mixed :
    ∃ ss p, Hold mixedRows ss ∧ Settle mixedSettings "I prove things." {} ∧
      ofRecords (.list mixedRows) (.list mixedSettings) = .ok p ∧
      (∀ kind, InOrder (p.sectionsOf kind) (ss.filter fun s => s.isVisible && s.kind = kind)) ∧
      p.skills.map (·.title) = ["C", "Lean", "Rust", "Coq"] ∧
      ofRecords (.list sortedRows) (.list mixedSettings) = .ok p := by
  have hmixed : (ofRecords (.list mixedRows) (.list mixedSettings)).toOption.map
      (fun p => (p.about, p.contactInfo, p.skills.map (·.title))) =
        some ("I prove things.", {}, ["C", "Lean", "Rust", "Coq"]) := by cbv
  have hsorted : (ofRecords (.list sortedRows) (.list mixedSettings)).toOption.map
      (fun _ => ()) = some () := by decide +kernel
  obtain ⟨p, hp, hread⟩ := exists_of_toOption hmixed
  obtain ⟨_, hp', -⟩ := exists_of_toOption hsorted
  obtain ⟨ss, about, contact, hss, hsettings, -⟩ := ofRecords_eq_ok.1 hp
  obtain ⟨ss', -, -, hss', -, -⟩ := ofRecords_eq_ok.1 hp'
  obtain ⟨q, hq, rfl, rfl, horder, -, hsame⟩ := ofRecords_grouped hss hsettings
  obtain rfl := Except.ok.inj (hp.symm.trans hq)
  simp only [Prod.mk.injEq] at hread
  obtain ⟨habout, hcontact, htitles⟩ := hread
  rw [habout, hcontact] at hsettings
  refine ⟨ss, p, hss, hsettings, hp, horder, htitles, hsame sortedRows ss' hss' fun kind => ?_⟩
  cases kind <;> rfl

end Snapshot

end Folio.Portfolio
