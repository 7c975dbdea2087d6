import Folio.Proofs.Lookup
import Folio.Proofs.Settings.Setting
/-!
Loaded settings: each is what its variable gives, else what the file gives, else its default, and
nothing else of the file or of the environment counts.
-/

namespace Folio

open Folio.Document Folio.Document.Decoded Folio.Text

namespace Setting

def isKey (name key : String) : Bool := all.any fun t => t.group? = some name ∧ t.key = key

def isTop (key : String) : Bool := all.any fun t => t.group?.getD t.key = key

def isVariable (name : String) : Bool := all.any fun t => t.var?.any (·.name = name)

end Setting

def Settings.only (o : Fields) : Fields :=
  o.select Setting.isTop fun name v => v.select (Setting.isKey name)

def SettingsFile.only : SettingsFile → SettingsFile
  | .present path (.ok (.record o)) => .present path (.ok (.record (Settings.only o)))
  | file => file

def Environment.only (env : Environment) : Environment :=
  env.filter fun e => Setting.isVariable e.1

theorem Environment.overrides_only (env : Environment) : env.only.overrides = env.overrides := by
  have hvars : ∀ t ∈ textVariables, Setting.isVariable t.name = true := by decide
  have htext : ∀ t ∈ textVariables, text? env.only t.name = text? env t.name := by
    intro t ht
    rw [text?, text?, only, lookup_filter Setting.isVariable env (hvars t ht)]
  have htimeout : env.only.timeout? = env.timeout? := by
    rw [timeout?, timeout?, only, lookup_filter Setting.isVariable env (by decide)]
  have hfold : textVariables.foldl (placeText env.only) [] =
      textVariables.foldl (placeText env) [] := by
    refine List.foldl_ext _ _ [] fun o t ht => ?_
    rw [placeText, placeText, htext t ht]
  rw [overrides, overrides, hfold, htimeout]

theorem optional_select {p : String → Bool} {f : String → Value → Value} {key : String}
    {default : α} {decode : Decoder α} (o : Fields) (hp : p key = true)
    (hf : ∀ v, decode (f key v) = decode v) :
    Document.optional (o.select p f) (.plain key) default decode =
      Document.optional o (.plain key) default decode := by
  rw [optional_plain, optional_plain, get?_select, if_pos hp]
  cases o.get? key with
  | none => rfl
  | some v => exact congrArg (under (.key key)) (hf v)

theorem record_select {p : String → Bool} {decode : Fields → Decoded σ}
    (h : ∀ o, decode (o.select p fun _ v => v) = decode o) (v : Value) :
    record decode (v.select p) = record decode v := by
  cases v with
  | record o => exact h o
  | _ => rfl

theorem text_select (p : String → Bool) (v : Value) : text (v.select p) = text v := by
  cases v <;> rfl

section Sections

variable {α β γ σ : Type} {k₁ k₂ k₃ : String} {d₁ : α} {d₂ : β} {d₃ : γ}
variable {decode₁ : Decoder α} {decode₂ : Decoder β} {decode₃ : Decoder γ} {p : String → Bool}

theorem select_two {mk : α → β → σ} (h₁ : p k₁ = true) (h₂ : p k₂ = true) (v : Value) :
    record (fun o => mk
      <$> Document.optional o (.plain k₁) d₁ decode₁
      <*> Document.optional o (.plain k₂) d₂ decode₂) (v.select p) =
    record (fun o => mk
      <$> Document.optional o (.plain k₁) d₁ decode₁
      <*> Document.optional o (.plain k₂) d₂ decode₂) v := by
  refine record_select (fun o => ?_) v
  rw [optional_select o h₁ fun _ => rfl, optional_select o h₂ fun _ => rfl]

theorem select_three {mk : α → β → γ → σ} (h₁ : p k₁ = true) (h₂ : p k₂ = true)
    (h₃ : p k₃ = true) (v : Value) :
    record (fun o => mk
      <$> Document.optional o (.plain k₁) d₁ decode₁
      <*> Document.optional o (.plain k₂) d₂ decode₂
      <*> Document.optional o (.plain k₃) d₃ decode₃) (v.select p) =
    record (fun o => mk
      <$> Document.optional o (.plain k₁) d₁ decode₁
      <*> Document.optional o (.plain k₂) d₂ decode₂
      <*> Document.optional o (.plain k₃) d₃ decode₃) v := by
  refine record_select (fun o => ?_) v
  rw [optional_select o h₁ fun _ => rfl, optional_select o h₂ fun _ => rfl,
    optional_select o h₃ fun _ => rfl]

end Sections

namespace Settings

theorem ofFields_only (o : Fields) : ofFields (only o) = ofFields o := by
  have hlogging (v : Value) :
      LoggingSettings.decode (v.select (Setting.isKey "logging")) = LoggingSettings.decode v :=
    select_two (by decide) (by decide) v
  have hterminal (v : Value) :
      TerminalSettings.decode (v.select (Setting.isKey "terminal")) = TerminalSettings.decode v :=
    select_two (by decide) (by decide) v
  have hcontact (v : Value) :
      ContactSettings.decode (v.select (Setting.isKey "contact")) = ContactSettings.decode v :=
    select_two (by decide) (by decide) v
  have hresume (v : Value) :
      ResumeSettings.decode (v.select (Setting.isKey "resume")) = ResumeSettings.decode v :=
    select_two (by decide) (by decide) v
  have hsource (v : Value) :
      SourceSettings.decode (v.select (Setting.isKey "portfolio")) = SourceSettings.decode v :=
    select_three (by decide) (by decide) (by decide) v
  have hsocials (v : Value) :
      SocialSettings.decode (v.select (Setting.isKey "socials")) = SocialSettings.decode v :=
    select_three (by decide) (by decide) (by decide) v
  rw [ofFields, ofFields, only, optional_select o (by decide) (text_select _),
    optional_select o (by decide) hlogging, optional_select o (by decide) hterminal,
    optional_select o (by decide) hcontact, optional_select o (by decide) hresume,
    optional_select o (by decide) hsource, optional_select o (by decide) hsocials]

theorem only_overlayFields (base new : Fields) :
    only (overlayFields base new) = overlayFields (only base) (only new) :=
  select_overlayFields (fun k old v => select_overlay (Setting.isKey k) old v) base new

theorem only_only (o : Fields) : only (only o) = only o :=
  select_select (fun name v => select_select_value (Setting.isKey name) v) o

theorem ofFields_layered_only (file : Fields) (env : Environment) :
    ofFields (layered (only file) env) = ofFields (layered file env) := by
  -- leaving keys out commutes with both overlays, so that doing it first to the file adds nothing
  have honly : only (layered (only file) env) = only (layered file env) := by
    rw [layered, layered, only_overlayFields, only_overlayFields, only_overlayFields,
      only_overlayFields, only_only]
  rw [← ofFields_only (layered (only file) env), honly, ofFields_only]

theorem only_nil : only [] = [] := by
  simp only [only, Fields.select, List.filter_nil, List.map_nil]

end Settings

namespace SettingsFile

theorem fields_record (path : String) (o : Fields) :
    (present path (.ok (.record o))).fields =
      if !Path.isYaml path then .error (.unsupported (Path.suffix path)) else .ok o := by
  unfold fields
  rfl

theorem fields_cases (file : SettingsFile) : (∃ e, file.fields = .error e ∧ e.issues = []) ∨
    (∃ path o, file = .present path (.ok (.record o)) ∧ file.fields = .ok o) ∨
      file.fields = .ok [] := by
  -- whether a path is one of a YAML file stays a variable: its suffix is lowered by a long table
  unfold fields
  split
  · exact .inr (.inr rfl)
  · exact .inr (.inr rfl)
  next path why =>
    generalize Path.isYaml path = yaml
    split
    · exact .inl ⟨_, rfl, rfl⟩
    · exact .inl ⟨_, rfl, rfl⟩
  next path content =>
    generalize Path.isYaml path = yaml
    split
    · exact .inl ⟨_, rfl, rfl⟩
    · split
      · exact .inl ⟨_, rfl, rfl⟩
      · exact .inl ⟨_, rfl, rfl⟩
      next o => exact .inr (.inl ⟨path, o, rfl, rfl⟩)
      · split
        · exact .inl ⟨_, rfl, rfl⟩
        · exact .inr (.inr rfl)

theorem fields_eq_nil {file : SettingsFile} {o : Fields} (h : file.fields = .ok o)
    (hrecord : ∀ path o, file ≠ .present path (.ok (.record o))) : o = [] := by
  obtain ⟨e, he, -⟩ | ⟨path, o', heq, -⟩ | hnil := fields_cases file
  · rw [h] at he
    cases he
  · exact absurd heq (hrecord path o')
  · rw [h] at hnil
    exact Except.ok.inj hnil

theorem fields_only (file : SettingsFile) : file.only.fields = file.fields.map Settings.only := by
  by_cases hrecord : ∃ path o, file = .present path (.ok (.record o))
  · obtain ⟨path, o, rfl⟩ := hrecord
    rw [only, fields_record, fields_record]
    generalize Path.isYaml path = yaml
    cases yaml <;> rfl
  · have hother : ∀ path o, file ≠ .present path (.ok (.record o)) :=
      fun path o heq => hrecord ⟨path, o, heq⟩
    have hsame : file.only = file := by
      unfold only
      split
      next path o => exact absurd rfl (hother path o)
      next => rfl
    rw [hsame]
    cases h : file.fields with
    | error e => rfl
    | ok o =>
      rw [fields_eq_nil h hother]
      exact congrArg Except.ok Settings.only_nil.symm

def Keyed (file : SettingsFile) : Prop := ∀ o, file.fields = .ok o → o.Keyed

theorem keyed_ofPath (files : Files) (path? : Option String) : (ofPath files path?).Keyed := by
  intro o h
  by_cases hrecord : ∃ path o, ofPath files path? = .present path (.ok (.record o))
  · obtain ⟨path, o', hpath⟩ := hrecord
    have hread : ∃ text, Yaml.read text = .ok (.record o') := by
      unfold ofPath at hpath
      split at hpath
      · cases hpath
      · split at hpath
        next text _ => exact ⟨text, (SettingsFile.present.inj hpath).2⟩
        all_goals cases hpath
    obtain ⟨text, hread⟩ := hread
    rw [hpath, fields_record] at h
    split at h
    · cases h
    · cases h
      exact Yaml.keyed_of_read hread
  · rw [fields_eq_nil h fun path o heq => hrecord ⟨path, o, heq⟩]
    exact Fields.keyed_nil

end SettingsFile

namespace Settings

theorem load_only (file : SettingsFile) (env : Environment) :
    load file.only env.only = load file env := by
  have hlayered (o : Fields) : layered o env.only = layered o env := by
    rw [layered, layered, Environment.overrides_only]
  rw [load, load, SettingsFile.fields_only]
  cases file.fields with
  | error e => rfl
  | ok o => simp only [Except.map, hlayered, ofFields_layered_only]

/-- Loaded settings are given one by one: by the variable if it is set, else by the file, else by
the default. What names no setting has no influence, neither on settings nor on failures. -/
theorem load_given {file : SettingsFile} {env : Environment} (hfile : file.Keyed)
    (henv : env.HasNumericTimeout) :
    (∀ s, load file env = .ok s → ∃ o, file.fields = .ok o ∧
      ∀ t ∈ Setting.all, Found t.decode (t.value {}) (t.value s) (t.given o env)) ∧
    load file.only env.only = load file env := by
  refine ⟨fun s h => ?_, load_only file env⟩
  unfold load at h
  cases ho : file.fields with
  | error e =>
    rw [ho] at h
    cases h
  | ok o =>
    rw [ho] at h
    dsimp only at h
    cases hs : ofFields (layered o env) with
    | ok s' =>
      rw [hs] at h
      cases h
      exact ⟨o, rfl, found_given (hfile o ho) henv hs⟩
    | failed issues =>
      rw [hs] at h
      cases h

def mixedFile : SettingsFile := .ofPath
  (fun _ => .file
    "owner_name: Ada\ncontact:\ncolour: green\nlogging:\n  level: info\n  rotate: yes\n")
  (some "folio.yml")

def mixedEnvironment : Environment := [("HOME", "/home/ada"), ("TERMINAL_LOG_LEVEL", "debug"),
  ("TERMINAL_LOG_FILE", ""), ("TERMINAL_CONTACT_TIMEOUT", "2.5")]

def mixed : Settings :=
  { ownerName := "Ada", logging := { level := .debug }, contact := { timeout := 2.5 } }

theorem load_given_mixed : mixedFile.Keyed ∧ mixedEnvironment.HasNumericTimeout ∧
    load mixedFile mixedEnvironment = .ok mixed ∧
    (∃ o, mixedFile.fields = .ok o ∧ ∀ t ∈ Setting.all,
      Found t.decode (t.value {}) (t.value mixed) (t.given o mixedEnvironment)) ∧
    load mixedFile.only mixedEnvironment.only = .ok mixed := by
  have hfile : mixedFile.Keyed := SettingsFile.keyed_ofPath _ _
  have henv : mixedEnvironment.HasNumericTimeout := by
    intro s hs
    cases hs
    decide +kernel
  have hload : load mixedFile mixedEnvironment = .ok mixed := by decide +kernel
  obtain ⟨hgiven, honly⟩ := load_given hfile henv
  exact ⟨hfile, henv, hload, hgiven mixed hload, honly.trans hload⟩

end Settings

end Folio
