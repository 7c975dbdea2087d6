import Folio.Proofs.Settings.Setting

namespace Folio

open Folio.Document Folio.Document.Decoded Folio.Text

structure Settings.Valid (s : Settings) : Prop where
  theme : s.terminal.theme.name ∈ Theme.names
  endpoint : ∀ url ∈ s.contact.endpoint, isWebUrl url = true
  timeout : 0 < s.contact.timeout
  url : ∀ url ∈ s.source.url, isWebUrl url = true
  wait : 0 < s.source.timeout

namespace Theme

theorem name_mem_names (t : Theme) : t.name ∈ names := by
  cases t <;> decide

theorem named?_name (t : Theme) : named? t.name = some t := by
  cases t <;> decide +kernel

theorem mem_all (t : Theme) : t ∈ all := by
  cases t <;> decide

theorem name_of_named? {name : String} {t : Theme} (h : named? name = some t) :
    t.name = lower (strip name) := by
  simpa using List.find?_some h

end Theme

theorem LogLevel.named?_name (l : LogLevel) : named? l.name = some l := by
  cases l <;> decide

theorem webUrl_eq_ok {v : Value} {url? : Option String} (h : webUrl v = ok url?) :
    ∀ url ∈ url?, isWebUrl url = true := by
  obtain ⟨found, -, hfound⟩ := andThen_eq_ok.1 h
  split at hfound
  next hall =>
    cases hfound
    exact (Option.all_eq_true _ _).1 hall
  next => cases hfound

theorem webUrl_ofOption {url? : Option String} (h : ∀ url ∈ url?, isWebUrl url = true) :
    webUrl (.ofOption .text url?) = ok url? := by
  rw [webUrl, nullable_text, andThen, if_pos ((Option.all_eq_true _ _).2 h)]

theorem positive_eq_ok {v : Value} {x : Float} (h : positive v = ok x) : 0 < x := by
  obtain ⟨y, -, hy⟩ := andThen_eq_ok.1 h
  split at hy
  next hlt =>
    cases hy
    exact hlt
  next => cases hy

theorem positive_float {x : Float} (h : 0 < x) : positive (.float x) = ok x := by
  rw [positive, number, andThen, if_pos h]

theorem themeName_name (t : Theme) : themeName (.text t.name) = ok t := by
  rw [themeName, text_text, andThen, Theme.named?_name]

theorem themeName_eq_ok {name : String} {t : Theme} (h : themeName (.text name) = ok t) :
    t.name = lower (strip name) := by
  obtain ⟨_, htext, hnamed⟩ := andThen_eq_ok.1 h
  cases htext
  split at hnamed
  next hfound =>
    cases hnamed
    exact Theme.name_of_named? hfound
  next => cases hnamed

theorem oneOf_name (l : LogLevel) : oneOf .notMember LogLevel.named? (.text l.name) = ok l := by
  rw [oneOf, LogLevel.named?_name]

theorem not_covers_of_within? {key : String} {v? : Option Value} {v : Value}
    (h : within? key v? = some v) : covers v? = false := by
  match v? with
  | none => cases h
  | some (.record _) => rfl

section Sections

variable {α β γ σ : Type} {k₁ k₂ k₃ : String} {d₁ a : α} {d₂ b : β} {d₃ c : γ}
variable {decode₁ : Decoder α} {decode₂ : Decoder β} {decode₃ : Decoder γ} {v? : Option Value}

theorem found_mk_two (mk : α → β → σ) (hopen : covers v? = false)
    (h₁ : Found decode₁ d₁ a (within? k₁ v?)) (h₂ : Found decode₂ d₂ b (within? k₂ v?)) :
    Found (record fun o => mk
      <$> Document.optional o (.plain k₁) d₁ decode₁
      <*> Document.optional o (.plain k₂) d₂ decode₂) (mk d₁ d₂) (mk a b) v? := by
  match v?, hopen with
  | none, _ =>
    obtain rfl : a = d₁ := h₁
    obtain rfl : b = d₂ := h₂
    rfl
  | some (.record o), _ =>
    rw [Found, record, optional_eq_ok.2 h₁, optional_eq_ok.2 h₂]
    rfl

theorem found_mk_three (mk : α → β → γ → σ) (hopen : covers v? = false)
    (h₁ : Found decode₁ d₁ a (within? k₁ v?)) (h₂ : Found decode₂ d₂ b (within? k₂ v?))
    (h₃ : Found decode₃ d₃ c (within? k₃ v?)) :
    Found (record fun o => mk
      <$> Document.optional o (.plain k₁) d₁ decode₁
      <*> Document.optional o (.plain k₂) d₂ decode₂
      <*> Document.optional o (.plain k₃) d₃ decode₃) (mk d₁ d₂ d₃) (mk a b c) v? := by
  match v?, hopen with
  | none, _ =>
    obtain rfl : a = d₁ := h₁
    obtain rfl : b = d₂ := h₂
    obtain rfl : c = d₃ := h₃
    rfl
  | some (.record o), _ =>
    rw [Found, record, optional_eq_ok.2 h₁, optional_eq_ok.2 h₂, optional_eq_ok.2 h₃]
    rfl

end Sections

theorem found_induction {decode : Decoder α} {default a : α} {v? : Option Value} {P : α → Prop}
    (hdefault : P default) (hdecode : ∀ v a, decode v = ok a → P a)
    (h : Found decode default a v?) : P a := by
  cases v? with
  | none => exact h ▸ hdefault
  | some v => exact hdecode v a h

namespace Settings

variable {s : Settings}

theorem Valid.of_source {base : Settings} (h : base.Valid) (hcontact : s.contact = base.contact)
    (hwait : s.source.timeout = base.source.timeout)
    (hurl : ∀ url ∈ s.source.url, isWebUrl url = true) : s.Valid where
  theme := s.terminal.theme.name_mem_names
  endpoint := hcontact ▸ h.endpoint
  timeout := hcontact ▸ h.timeout
  url := hurl
  wait := hwait ▸ h.wait

theorem valid_of_ofFields {o : Fields} (h : ofFields o = ok s) : s.Valid := by
  have hfound := found_of_ofFields h
  simp only [Setting.all, List.forall_mem_cons] at hfound
  obtain ⟨-, -, -, -, -, hendpoint, htimeout, -, -, -, hurl, hwait, -⟩ := hfound
  have hpositive : positive (.float 10) = ok 10 := rfl
  exact {
    theme := s.terminal.theme.name_mem_names
    endpoint := found_induction (by decide) (fun _ _ => webUrl_eq_ok) hendpoint
    timeout := found_induction (positive_eq_ok hpositive) (fun _ _ => positive_eq_ok) htimeout
    url := found_induction (by simp) (fun _ _ => webUrl_eq_ok) hurl
    wait := found_induction (positive_eq_ok hpositive) (fun _ _ => positive_eq_ok) hwait }

theorem load_eq_ok {file : SettingsFile} {env : Environment} : load file env = .ok s ↔
    ∃ o, file.fields = .ok o ∧ ofFields (layered o env) = ok s := by
  rw [load]
  cases file.fields with
  | error e => simp
  | ok o => cases hs : ofFields (layered o env) <;> simp [hs]

theorem valid_of_load {file : SettingsFile} {env : Environment} (h : load file env = .ok s) :
    s.Valid := by
  obtain ⟨o, -, hs⟩ := load_eq_ok.1 h
  exact valid_of_ofFields hs

theorem ofFields_of_found {o : Fields}
    (hopen : ∀ t ∈ Setting.all, covers (t.group?.bind o.get?) = false)
    (h : ∀ t ∈ Setting.all, Found t.decode (t.value {}) (t.value s) (o.at? t.group? t.key)) :
    ofFields o = ok s := by
  simp only [Setting.all, List.forall_mem_cons] at hopen h
  obtain ⟨-, logging, -, terminal, -, contact, -, resume, -, source, -, -, socials, -⟩ := hopen
  obtain ⟨howner, hlevel, hlog, htheme, hprompt, hendpoint, htimeout, hurl, hfilename, hdata, hapi,
    hwait, hgithub, hlinkedin, hinstagram, -⟩ := h
  simp only [ofFields, seq_eq_ok, map_eq_ok, optional_eq_ok]
  exact ⟨_, _, ⟨_, _, ⟨_, _, ⟨_, _, ⟨_, _, ⟨_, _, ⟨_, howner, rfl⟩,
    found_mk_two LoggingSettings.mk logging hlevel hlog, rfl⟩,
    found_mk_two TerminalSettings.mk terminal htheme hprompt, rfl⟩,
    found_mk_two ContactSettings.mk contact hendpoint htimeout, rfl⟩,
    found_mk_two ResumeSettings.mk resume hurl hfilename, rfl⟩,
    found_mk_three SourceSettings.mk source hdata hapi hwait, rfl⟩,
    found_mk_three SocialSettings.mk socials hgithub hlinkedin hinstagram, rfl⟩

theorem exists_written (h : s.Valid) : ∀ t ∈ Setting.all, ∃ v,
    s.fields.at? t.group? t.key = some v ∧ t.decode v = ok (t.value s) := by
  simp only [Setting.all, List.forall_mem_cons]
  exact ⟨⟨_, rfl, text_text _⟩, ⟨_, rfl, oneOf_name _⟩, ⟨_, rfl, nullable_text _⟩,
    ⟨_, rfl, themeName_name _⟩, ⟨_, rfl, text_text _⟩, ⟨_, rfl, webUrl_ofOption h.endpoint⟩,
    ⟨_, rfl, positive_float h.timeout⟩, ⟨_, rfl, text_text _⟩, ⟨_, rfl, text_text _⟩,
    ⟨_, rfl, nullable_text _⟩, ⟨_, rfl, webUrl_ofOption h.url⟩, ⟨_, rfl, positive_float h.wait⟩,
    ⟨_, rfl, text_text _⟩, ⟨_, rfl, text_text _⟩, ⟨_, rfl, text_text _⟩,
    List.forall_mem_nil _⟩

/-- The fields have each setting as the document of these settings has it, whatever else they
have. -/
def HeldIn (s : Settings) (o : Fields) : Prop :=
  ∀ t ∈ Setting.all, o.at? t.group? t.key = s.fields.at? t.group? t.key

theorem ofFields_of_heldIn (h : s.Valid) {o : Fields} (ho : s.HeldIn o) : ofFields o = ok s := by
  refine ofFields_of_found (fun t ht => ?_) fun t ht => ?_
  · obtain ⟨v, hv, -⟩ := exists_written h t ht
    rw [← ho t ht] at hv
    cases hgroup : t.group? with
    | none => rfl
    | some name =>
      rw [hgroup] at hv
      exact not_covers_of_within? hv
  · obtain ⟨v, hv, hdecode⟩ := exists_written h t ht
    rw [ho t ht, hv]
    exact hdecode

theorem decode_toDocument_iff : decode s.toDocument = ok s ↔ s.Valid :=
  ⟨valid_of_ofFields, fun h => ofFields_of_heldIn h fun _ _ => rfl⟩

end Settings

end Folio
