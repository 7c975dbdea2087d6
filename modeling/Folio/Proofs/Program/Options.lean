import Folio.Program.Run
import Folio.Proofs.Settings.Load
import Folio.Proofs.Settings.Valid

namespace Folio.Program

open Folio.Document Folio.Document.Decoded Folio.Portfolio

namespace Options

variable {o o' : Options} {c : Choice} {value : String}

def OneSource (o : Options) : Prop := o.data = none ∨ o.dataUrl = none

theorem oneSource_set (h : o.OneSource) (hset : o.set c value = .ok o') : o'.OneSource := by
  cases c with
  | data =>
    rw [set] at hset
    split at hset
    · cases hset
    next hurl =>
      cases hset
      exact .inr (Option.not_isSome_iff_eq_none.1 hurl)
  | dataUrl =>
    rw [set] at hset
    split at hset
    · cases hset
    next hdata =>
      cases hset
      exact .inl (Option.not_isSome_iff_eq_none.1 hdata)
  | theme =>
    rw [set] at hset
    split at hset <;> cases hset
    exact h
  | logLevel =>
    rw [set] at hset
    split at hset <;> cases hset
    exact h
  | _ =>
    cases hset
    exact h

theorem read_induction {P : Options → Prop}
    (hset : ∀ {o o' c value}, P o → o.set c value = .ok o' → P o') {extra args : List String}
    (h : P o) (hread : o.read extra args = .ok o') : P o' := by
  fun_induction read o extra args with
  | case1 o extra _ =>
    cases hread
    exact h
  | case3 o extra arg rest _ ih => exact ih h hread
  | case4 o extra arg rest _ ih => exact ih h hread
  | case6 o extra arg rest c letters _ _ o₁ ho₁ ih => exact ih (hset h ho₁) hread
  | case11 o extra arg rest c value _ _ o₁ ho₁ ih => exact ih (hset h ho₁) hread
  | case15 o extra arg c _ _ _ value rest _ o₁ ho₁ ih => exact ih (hset h ho₁) hread
  | _ => cases hread

theorem oneSource_ofArgs {args : List String} (h : ofArgs args = .ok o) : o.OneSource := by
  unfold ofArgs at h
  split at h
  · cases h
  · exact read_induction oneSource_set (.inl rfl) h

theorem settings_eq_ok {files : Files} {env : Environment} {s : Settings} :
    o.settings files env = .ok s ↔
      ∃ base, Settings.load (.ofPath files o.config) env = .ok base ∧ o.apply base = s := by
  rw [settings]
  cases Settings.load (.ofPath files o.config) env <;> simp [Except.map]

theorem apply_contact (o : Options) (base : Settings) : (o.apply base).contact = base.contact := by
  simp only [apply]

theorem apply_timeout (o : Options) (base : Settings) :
    (o.apply base).source.timeout = base.source.timeout := by
  unfold apply
  cases o.dataUrl <;> cases o.data <;> rfl

theorem apply_url (o : Options) (base : Settings) : (o.apply base).source.url =
    o.dataUrl.or (if o.data.isSome then none else base.source.url) := by
  unfold apply
  cases o.dataUrl <;> cases o.data <;> rfl

theorem apply_file (o : Options) (base : Settings) : (o.apply base).source.file =
    if o.dataUrl.isSome then none else o.data.or base.source.file := by
  unfold apply
  cases o.dataUrl <;> cases o.data <;> rfl

theorem valid_apply_iff {base : Settings} (h : base.Valid) :
    (o.apply base).Valid ↔ ∀ url ∈ o.dataUrl, isWebUrl url = true := by
  constructor
  · intro hvalid url hurl
    apply hvalid.url
    rw [apply_url, hurl]
    rfl
  · intro hurl
    refine h.of_source (apply_contact o base) (apply_timeout o base) ?_
    rw [apply_url]
    cases hdataUrl : o.dataUrl with
    | some url =>
      rw [hdataUrl] at hurl
      exact hurl
    | none =>
      cases o.data with
      | some path => nofun
      | none => exact h.url

end Options

/-- Settings are valid exactly when the address that an option gives is one that the other layers
may give; whatever else is in them is always valid. They are read back from the document they are
shown as exactly when they are valid. -/
theorem settings_valid_iff {o : Options} {files : Files} {env : Environment} {s : Settings}
    (h : o.settings files env = .ok s) :
    (s.Valid ↔ ∀ url ∈ o.dataUrl, isWebUrl url = true) ∧
    (Settings.decode s.toDocument = ok s ↔ s.Valid) ∧
    { s with source := { s.source with url := none } }.Valid := by
  obtain ⟨base, hload, rfl⟩ := Options.settings_eq_ok.1 h
  have hbase := Settings.valid_of_load hload
  refine ⟨Options.valid_apply_iff hbase, Settings.decode_toDocument_iff, ?_⟩
  exact hbase.of_source (Options.apply_contact o base) (Options.apply_timeout o base) nofun

theorem settings_valid_iff_web :
    ∃ s, Options.settings { dataUrl := some "https://example.com/p", theme := some .matrix }
        (fun _ => .noFile .absent) [("TERMINAL_CONTACT_URL", "http://localhost:9/c")] = .ok s ∧
      s.Valid ∧ Settings.decode s.toDocument = ok s := by
  have h : Options.settings { dataUrl := some "https://example.com/p", theme := some .matrix }
      (fun _ => .noFile .absent) [("TERMINAL_CONTACT_URL", "http://localhost:9/c")] =
        .ok { terminal := { theme := .matrix }, contact := { endpoint := "http://localhost:9/c" },
              source := { url := "https://example.com/p" } } := by decide +kernel
  obtain ⟨hvalid, hdecode, -⟩ := settings_valid_iff h
  have hweb := hvalid.2 (by decide +kernel)
  exact ⟨_, h, hweb, hdecode.2 hweb⟩

theorem settings_no_web :
    ∃ o s, Options.ofArgs ["--data-url", "nourl"] = .ok o ∧
      o.settings (fun _ => .noFile .absent) [] = .ok s ∧ ¬ s.Valid ∧
      Settings.decode s.toDocument ≠ ok s ∧
      Settings.load .none [("TERMINAL_PORTFOLIO_URL", "nourl")] =
        .error (.invalid [⟨[.key "portfolio", .key "api_url"],
          .refused "URL must start with http:// or https://"⟩]) := by
  have hinvalid : ¬ ({ source := { url := some "nourl" } } : Settings).Valid := by
    intro h
    have hnourl : ¬ isWebUrl "nourl" = true := by decide +kernel
    exact hnourl (h.url "nourl" rfl)
  exact ⟨{ dataUrl := some "nourl" }, { source := { url := some "nourl" } }, by decide +kernel,
    by decide +kernel, hinvalid, fun h => hinvalid (Settings.decode_toDocument_iff.1 h),
    by decide +kernel⟩

def textIn? : Option Value → Option String
  | some (.text s) => if s.isEmpty then none else some s
  | _ => none

def sourceIn? (fields : Fields) (key : String) : Option String :=
  textIn? (fields.at? (some "portfolio") key)

theorem filter_found {text? : Option String} {v? : Option Value}
    (h : Found (nullable text) none text? v?) : text?.filter (!·.isEmpty) = textIn? v? := by
  cases v? with
  | none =>
    cases h
    rfl
  | some v =>
    cases v with
    | null =>
      cases h
      rfl
    | text s =>
      cases h
      rw [textIn?, Option.filter_some]
      cases s.isEmpty <;> rfl
    | _ => cases h

theorem found_nullable {url? : Option String} {v? : Option Value}
    (h : Found webUrl none url? v?) : Found (nullable text) none url? v? := by
  cases v? with
  | none => exact h
  | some v =>
    obtain ⟨found?, hfound, hcheck⟩ := andThen_eq_ok.1 h
    split at hcheck
    · cases hcheck
      exact hfound
    · cases hcheck

def valueOf? (env : Environment) (name : String) : Option String :=
  (env.lookup name).filter (!·.isEmpty)

theorem textIn?_given (env : Environment) (name : String) (v? : Option Value) :
    textIn? (((Variable.text name).given env).or v?) = (valueOf? env name).or (textIn? v?) := by
  have hgiven : (Variable.text name).given env = (valueOf? env name).map .text := by
    show (valueOf? env name).bind (fun s => some (Value.text s)) = _
    cases valueOf? env name <;> rfl
  rw [hgiven]
  cases h : valueOf? env name with
  | none => rfl
  | some s =>
    have hs := (Option.filter_eq_some_iff.1 h).2
    rw [Bool.not_eq_true'] at hs
    simp [textIn?, hs]

theorem filter_source {fields : Fields} {env : Environment} {base : Settings}
    (hfields : fields.Keyed) (h : Settings.ofFields (Settings.layered fields env) = ok base) :
    base.source.file.filter (!·.isEmpty) =
        (valueOf? env "TERMINAL_PORTFOLIO_FILE").or (sourceIn? fields "data_file") ∧
      base.source.url.filter (!·.isEmpty) =
        (valueOf? env "TERMINAL_PORTFOLIO_URL").or (sourceIn? fields "api_url") := by
  have hfound := Settings.found_given_of hfields h
  simp only [Setting.all, List.forall_mem_cons] at hfound
  obtain ⟨-, -, -, -, -, -, -, -, -, hfile, hurl, -⟩ := hfound
  rw [sourceIn?, sourceIn?, ← textIn?_given, ← textIn?_given]
  exact ⟨filter_found (hfile (by simp)), filter_found (found_nullable (hurl (by simp)))⟩

def loadFrom (w : Surroundings) (source : Source) : Except Break Loaded :=
  match source.read w.files w.transport with
  | .ok p => .ok { data := some p }
  | .error (.load (.unusable reason _)) => .ok { notice := some (.snapshot reason) }
  | .error e => .error (.source e)

/-- The snapshot of a run comes from a source, and no request is made for it but those of the
source. -/
structure ReadsFrom (s : Settings) (source : Source) : Prop where
  load : ∀ w, load w s = loadFrom w source
  requests : (Source.ofSettings? s.source).map Source.requests = some source.requests

theorem readsFrom_of_source {s : Settings} {source : Source}
    (h : Source.ofSettings? s.source = some source) : ReadsFrom s source where
  load w := by
    simp only [Program.load, h]
    rfl
  requests := by
    rw [h]
    rfl

theorem readsFrom_file {s : Settings} {path : String}
    (h : s.source.file.filter (!·.isEmpty) = some path) : ReadsFrom s (.file path) := by
  apply readsFrom_of_source
  rw [Source.ofSettings?, h]

theorem readsFrom_address {s : Settings} {url : String}
    (hfile : s.source.file.filter (!·.isEmpty) = none)
    (hurl : s.source.url.filter (!·.isEmpty) = some url) : ReadsFrom s (.address url) := by
  apply readsFrom_of_source
  rw [Source.ofSettings?, hfile, hurl]
  rfl

/-- The options name the source before all else, and the environment before the settings file. But a
file that holds a snapshot goes before an address, also when the settings file names the one and
the environment the other. -/
theorem settings_source {args : List String} {o : Options} {files : Files} {env : Environment}
    {s : Settings} (hargs : Options.ofArgs args = .ok o) (hs : o.settings files env = .ok s) :
    (∀ path, o.data = some path → path.isEmpty = false → ReadsFrom s (.file path)) ∧
    (∀ url, o.dataUrl = some url → url.isEmpty = false → ReadsFrom s (.address url)) ∧
    (o.data = none → o.dataUrl = none →
      (∀ path, valueOf? env "TERMINAL_PORTFOLIO_FILE" = some path → ReadsFrom s (.file path)) ∧
      ∃ fields, (SettingsFile.ofPath files o.config).fields = .ok fields ∧
        ∀ url, valueOf? env "TERMINAL_PORTFOLIO_URL" = some url →
          valueOf? env "TERMINAL_PORTFOLIO_FILE" = none →
          (sourceIn? fields "data_file" = none → ReadsFrom s (.address url)) ∧
          ∀ path, sourceIn? fields "data_file" = some path → ReadsFrom s (.file path)) := by
  obtain ⟨base, hload, rfl⟩ := Options.settings_eq_ok.1 hs
  obtain ⟨fields, hfields, hbase⟩ := Settings.load_eq_ok.1 hload
  have hone := Options.oneSource_ofArgs hargs
  refine ⟨fun path hdata hpath => ?_, fun url hdataUrl hurl => ?_, fun hdata hdataUrl => ?_⟩
  · have hdataUrl : o.dataUrl = none := hone.resolve_left (by simp [hdata])
    apply readsFrom_file
    rw [Options.apply_file, hdataUrl, hdata]
    simp [hpath]
  · apply readsFrom_address
    · rw [Options.apply_file, hdataUrl]
      rfl
    · rw [Options.apply_url, hdataUrl]
      simp [hurl]
  · have hfile : (o.apply base).source.file = base.source.file := by
      rw [Options.apply_file, hdataUrl, hdata]
      rfl
    have hurl : (o.apply base).source.url = base.source.url := by
      rw [Options.apply_url, hdataUrl, hdata]
      rfl
    obtain ⟨hfiles, hurls⟩ :=
      filter_source (SettingsFile.keyed_ofPath files o.config fields hfields) hbase
    rw [← hfile] at hfiles
    rw [← hurl] at hurls
    refine ⟨fun path hpath => readsFrom_file ?_, fields, hfields, fun url haddress hnone =>
      ⟨fun habsent => readsFrom_address ?_ ?_, fun path hpath => readsFrom_file ?_⟩⟩
    · rw [hfiles, hpath]
      rfl
    · rw [hfiles, hnone, habsent]
      rfl
    · rw [hurls, haddress]
      rfl
    · rw [hfiles, hnone, hpath]
      rfl

def namingFile : Files := fun _ => .file "portfolio:\n  data_file: old.json\n"

theorem settings_source_renamed :
    ∃ o s, Options.ofArgs ["--config", "folio.yml"] = .ok o ∧
      o.settings namingFile [("TERMINAL_PORTFOLIO_FILE", "new.json")] = .ok s ∧
      ReadsFrom s (.file "new.json") := by
  have hargs : Options.ofArgs ["--config", "folio.yml"] = .ok { config := "folio.yml" } := by
    decide +kernel
  have hs : Options.settings { config := "folio.yml" } namingFile
      [("TERMINAL_PORTFOLIO_FILE", "new.json")] =
        .ok { source := { file := "new.json" } } := by decide +kernel
  obtain ⟨-, -, hlayers⟩ := settings_source hargs hs
  exact ⟨_, _, hargs, hs, (hlayers rfl rfl).1 "new.json" (by decide +kernel)⟩

theorem settings_source_stays :
    ∃ o s, Options.ofArgs ["--config", "folio.yml"] = .ok o ∧ o.data = none ∧ o.dataUrl = none ∧
      o.settings namingFile [("TERMINAL_PORTFOLIO_URL", "https://example.com/p")] = .ok s ∧
      ReadsFrom s (.file "old.json") ∧ ¬ ReadsFrom s (.address "https://example.com/p") := by
  refine ⟨{ config := "folio.yml" },
    { source := { file := "old.json", url := "https://example.com/p" } }, by decide +kernel, rfl,
    rfl, by decide +kernel, readsFrom_file (by decide +kernel), fun h => ?_⟩
  have hcount := congrArg (Option.map List.length) h.requests
  revert hcount
  decide +kernel

end Folio.Program
