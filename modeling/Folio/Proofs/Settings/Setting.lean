import Folio.Proofs.Settings.Environment

namespace Folio

open Folio.Document Folio.Document.Decoded Folio.Text Folio.Number

structure Variable where
  name : String
  reading : String → Option Value

namespace Variable

def text (name : String) : Variable := ⟨name, fun s => some (.text s)⟩

def given (x : Variable) (env : Environment) : Option Value :=
  ((env.lookup x.name).filter (!·.isEmpty)).bind x.reading

end Variable

/-- A setting: where it stands, the variable that gives it and the decoder of what is given. -/
structure Setting where
  Kind : Type
  group? : Option String
  key : String
  var? : Option Variable
  decode : Decoder Kind
  value : Settings → Kind

namespace Setting

def all : List Setting := [
  ⟨String, none, "owner_name", some (.text "TERMINAL_OWNER_NAME"), text, (·.ownerName)⟩,
  ⟨LogLevel, some "logging", "level",
    some ⟨"TERMINAL_LOG_LEVEL", fun s => some (.text (upper s))⟩,
    oneOf .notMember LogLevel.named?, (·.logging.level)⟩,
  ⟨Option String, some "logging", "log_file", some (.text "TERMINAL_LOG_FILE"),
    nullable text, (·.logging.file)⟩,
  ⟨Theme, some "terminal", "default_theme", some (.text "TERMINAL_DEFAULT_THEME"),
    themeName, (·.terminal.theme)⟩,
  ⟨String, some "terminal", "prompt", none, text, (·.terminal.prompt)⟩,
  ⟨Option String, some "contact", "endpoint_url", some (.text "TERMINAL_CONTACT_URL"),
    webUrl, (·.contact.endpoint)⟩,
  ⟨Float, some "contact", "timeout",
    some ⟨"TERMINAL_CONTACT_TIMEOUT", fun s => (environmentFloat? s).map .float⟩,
    positive, (·.contact.timeout)⟩,
  ⟨String, some "resume", "url", some (.text "TERMINAL_RESUME_URL"), text, (·.resume.url)⟩,
  ⟨String, some "resume", "filename", none, text, (·.resume.filename)⟩,
  ⟨Option String, some "portfolio", "data_file", some (.text "TERMINAL_PORTFOLIO_FILE"),
    nullable text, (·.source.file)⟩,
  ⟨Option String, some "portfolio", "api_url", some (.text "TERMINAL_PORTFOLIO_URL"),
    webUrl, (·.source.url)⟩,
  ⟨Float, some "portfolio", "timeout", none, positive, (·.source.timeout)⟩,
  ⟨String, some "socials", "github", none, text, (·.socials.github)⟩,
  ⟨String, some "socials", "linkedin", none, text, (·.socials.linkedin)⟩,
  ⟨String, some "socials", "instagram", none, text, (·.socials.instagram)⟩]

def given (t : Setting) (file : Fields) (env : Environment) : Option Value :=
  (t.var?.bind (·.given env)).or (file.at? t.group? t.key)

theorem isAddress_of_mem : ∀ t ∈ all, IsAddress t.key t.group? := by
  decide

theorem exists_default : ∀ t ∈ all, ∃ v, ({} : Settings).fields.at? t.group? t.key = some v ∧
    v.IsLeaf ∧ t.decode v = ok (t.value {}) := by
  simp only [all, List.forall_mem_cons]
  refine ⟨⟨_, rfl, nofun, rfl⟩, ⟨_, rfl, nofun, rfl⟩, ⟨_, rfl, nofun, rfl⟩, ⟨_, rfl, nofun, rfl⟩,
    ⟨_, rfl, nofun, rfl⟩, ⟨_, rfl, nofun, rfl⟩, ⟨_, rfl, nofun, rfl⟩, ⟨_, rfl, nofun, rfl⟩,
    ⟨_, rfl, nofun, rfl⟩, ⟨_, rfl, nofun, rfl⟩, ⟨_, rfl, nofun, rfl⟩, ⟨_, rfl, nofun, rfl⟩,
    ⟨_, rfl, nofun, rfl⟩, ⟨_, rfl, nofun, rfl⟩, ⟨_, rfl, nofun, rfl⟩, nofun⟩

end Setting

theorem found_record {decode : Fields → Decoded σ} {default s : σ} {v? : Option Value}
    (h : Found (record decode) default s v?) :
    (v? = none ∧ s = default) ∨ ∃ o, v? = some (.record o) ∧ decode o = ok s := by
  cases v? with
  | none => exact .inl ⟨rfl, h⟩
  | some v =>
    cases v with
    | record o => exact .inr ⟨o, rfl, h⟩
    | _ => cases h

section Sections

variable {α β γ σ : Type} {k₁ k₂ k₃ : String} {d₁ a : α} {d₂ b : β} {d₃ c : γ}
variable {decode₁ : Decoder α} {decode₂ : Decoder β} {decode₃ : Decoder γ}
variable {s : σ} {v? : Option Value}

theorem found_two {mk : α → β → σ}
    (h : Found (record fun o => mk
      <$> Document.optional o (.plain k₁) d₁ decode₁
      <*> Document.optional o (.plain k₂) d₂ decode₂) (mk d₁ d₂) s v?) :
    ∃ a b, mk a b = s ∧ Found decode₁ d₁ a (within? k₁ v?) ∧
      Found decode₂ d₂ b (within? k₂ v?) := by
  obtain ⟨rfl, rfl⟩ | ⟨o, rfl, ho⟩ := found_record h
  · exact ⟨d₁, d₂, rfl, rfl, rfl⟩
  · simp only [seq_eq_ok, map_eq_ok, optional_eq_ok] at ho
    obtain ⟨_, b, ⟨a, ha, rfl⟩, hb, hmk⟩ := ho
    exact ⟨a, b, hmk, ha, hb⟩

theorem found_three {mk : α → β → γ → σ}
    (h : Found (record fun o => mk
      <$> Document.optional o (.plain k₁) d₁ decode₁
      <*> Document.optional o (.plain k₂) d₂ decode₂
      <*> Document.optional o (.plain k₃) d₃ decode₃) (mk d₁ d₂ d₃) s v?) :
    ∃ a b c, mk a b c = s ∧ Found decode₁ d₁ a (within? k₁ v?) ∧
      Found decode₂ d₂ b (within? k₂ v?) ∧ Found decode₃ d₃ c (within? k₃ v?) := by
  obtain ⟨rfl, rfl⟩ | ⟨o, rfl, ho⟩ := found_record h
  · exact ⟨d₁, d₂, d₃, rfl, rfl, rfl, rfl⟩
  · simp only [seq_eq_ok, map_eq_ok, optional_eq_ok] at ho
    obtain ⟨_, c, ⟨_, b, ⟨a, ha, rfl⟩, hb, rfl⟩, hc, hmk⟩ := ho
    exact ⟨a, b, c, hmk, ha, hb, hc⟩

end Sections

namespace Settings

theorem found_of_ofFields {o : Fields} {s : Settings} (h : ofFields o = ok s) :
    ∀ t ∈ Setting.all, Found t.decode (t.value {}) (t.value s) (o.at? t.group? t.key) := by
  simp only [ofFields, seq_eq_ok, map_eq_ok, optional_eq_ok] at h
  obtain ⟨_, _, ⟨_, _, ⟨_, _, ⟨_, _, ⟨_, _, ⟨_, _, ⟨_, howner, rfl⟩, hlogging, rfl⟩, hterminal,
    rfl⟩, hcontact, rfl⟩, hresume, rfl⟩, hsource, rfl⟩, hsocials, rfl⟩ := h
  obtain ⟨_, _, rfl, hlevel, hlog⟩ := found_two hlogging
  obtain ⟨_, _, rfl, htheme, hprompt⟩ := found_two hterminal
  obtain ⟨_, _, rfl, hendpoint, htimeout⟩ := found_two hcontact
  obtain ⟨_, _, rfl, hurl, hfilename⟩ := found_two hresume
  obtain ⟨_, _, _, rfl, hdata, hapi, hwait⟩ := found_three hsource
  obtain ⟨_, _, _, rfl, hgithub, hlinkedin, hinstagram⟩ := found_three hsocials
  simp only [Setting.all, List.forall_mem_cons]
  exact ⟨howner, hlevel, hlog, htheme, hprompt, hendpoint, htimeout, hurl, hfilename, hdata, hapi,
    hwait, hgithub, hlinkedin, hinstagram, nofun⟩

end Settings

namespace Environment

def HasNumericTimeout (env : Environment) : Prop :=
  ∀ s, env.lookup timeoutVariable = some s → (environmentFloat? s).isSome

theorem map_text? (env : Environment) (name : String) : (text? env name).map .text =
    Variable.given ⟨name, fun s => some (.text (if name = logLevelVariable then upper s else s))⟩
      env := by
  rw [text?, Variable.given]
  cases (env.lookup name).filter (!·.isEmpty) <;> rfl

theorem map_timeout? {env : Environment} (h : env.HasNumericTimeout) : env.timeout?.map .float =
    Variable.given ⟨timeoutVariable, fun s => (environmentFloat? s).map .float⟩ env := by
  rw [timeout?, Variable.given]
  cases hlookup : env.lookup timeoutVariable with
  | none => rfl
  | some s =>
    obtain ⟨x, hx⟩ := Option.isSome_iff_exists.1 (h s hlookup)
    have hs : s.isEmpty = false := by
      cases hempty : s.isEmpty with
      | false => rfl
      | true =>
        rw [String.isEmpty_iff.1 hempty] at hx
        cases hx
    simp [Option.filter, hs, hx]

theorem at?_overrides_eq_given {env : Environment} : ∀ t ∈ Setting.all,
    (t.key = "timeout" → env.HasNumericTimeout) →
      env.overrides.at? t.group? t.key = t.var?.bind (·.given env) := by
  intro t ht
  rw [at?_overrides env (Setting.isAddress_of_mem t ht)]
  revert t
  simp only [Setting.all, List.forall_mem_cons]
  exact ⟨fun _ => map_text? env _, fun _ => map_text? env _, fun _ => map_text? env _,
    fun _ => map_text? env _, fun _ => rfl, fun _ => map_text? env _,
    fun h => map_timeout? (h trivial), fun _ => map_text? env _, fun _ => rfl,
    fun _ => map_text? env _, fun _ => map_text? env _, fun _ => rfl, fun _ => rfl, fun _ => rfl,
    fun _ => rfl, nofun⟩

end Environment

namespace Settings

theorem at?_layered (file : Fields) {env : Environment} {t : Setting} (ht : t ∈ Setting.all)
    (henv : t.key = "timeout" → env.HasNumericTimeout) :
    (layered file env).at? t.group? t.key =
      (t.var?.bind (·.given env)).or
        ((overlayFields ({} : Settings).fields file).at? t.group? t.key) := by
  have haddr := Setting.isAddress_of_mem t ht
  have hsections := Environment.sectioned_overrides env
  have hopen : covers (t.group?.bind env.overrides.get?) = false := by
    cases hgroup : t.group? with
    | none => rfl
    | some name =>
      rw [hgroup] at haddr
      exact hsections.uncovered name haddr
  rw [layered, at?_overlayFields_leaf hsections.keyed _ hopen
    fun _ => Environment.isLeaf_of_at?_overrides haddr,
    Environment.at?_overrides_eq_given t ht henv]

theorem found_given_of {file : Fields} {env : Environment} (hfile : file.Keyed) {s : Settings}
    (h : ofFields (layered file env) = ok s) : ∀ t ∈ Setting.all,
      (t.key = "timeout" → env.HasNumericTimeout) →
        Found t.decode (t.value {}) (t.value s) (t.given file env) := by
  intro t ht henv
  have hfound := found_of_ofFields h t ht
  obtain ⟨d, hd, hleaf, hdecode⟩ := Setting.exists_default t ht
  rw [at?_layered file ht henv, at?_overlayFields hfile, hd] at hfound
  rw [Setting.given]
  cases hvar : t.var?.bind (·.given env) with
  | some v =>
    rw [hvar] at hfound
    exact hfound
  | none =>
    rw [hvar, Option.none_or] at hfound
    cases hat : file.at? t.group? t.key with
    | some v =>
      rw [hat] at hfound
      dsimp only at hfound
      rw [overlay_over_leaf hleaf] at hfound
      exact hfound
    | none =>
      rw [hat] at hfound
      dsimp only at hfound
      split at hfound
      · exact hfound
      · exact (ok.inj (hdecode.symm.trans hfound)).symm

theorem found_given {file : Fields} {env : Environment} (hfile : file.Keyed)
    (henv : env.HasNumericTimeout) {s : Settings} (h : ofFields (layered file env) = ok s) :
    ∀ t ∈ Setting.all, Found t.decode (t.value {}) (t.value s) (t.given file env) :=
  fun t ht => found_given_of hfile h t ht fun _ => henv

end Settings

end Folio
