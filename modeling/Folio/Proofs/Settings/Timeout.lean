import Folio.Proofs.Settings.Load
/-!
The contact timeout of an environment in which its variable is no number: the default comes over
whatever the file says, and this is what shows of it.
-/

namespace Folio

open Folio.Document Folio.Document.Decoded Folio.Number

namespace Document

namespace Decoded

def issues : Decoded α → List Issue
  | ok _ => []
  | failed is => is

@[simp] theorem issues_ok (a : α) : (ok a).issues = [] := rfl

@[simp] theorem issues_map (f : α → β) (x : Decoded α) : (f <$> x).issues = x.issues := by
  cases x <;> rfl

@[simp] theorem issues_seq (f : Decoded (α → β)) (x : Decoded α) :
    (f <*> x).issues = f.issues ++ x.issues := by
  cases f with
  | ok g => cases x <;> rfl
  | failed is =>
    cases x with
    | ok a => exact (List.append_nil is).symm
    | failed js => rfl

@[simp] theorem issues_under (step : Step) (x : Decoded α) :
    (x.under step).issues = x.issues.map fun i => { i with path := step :: i.path } := by
  cases x <;> rfl

inductive Agree : Decoded α → Decoded β → Prop
  | ok (a : α) (b : β) : Agree (ok a) (ok b)
  | failed (is : List Issue) : Agree (failed is) (failed is)

theorem Agree.refl (x : Decoded α) : Agree x x := by
  cases x with
  | ok a => exact .ok a a
  | failed is => exact .failed is

theorem Agree.seq {f : Decoded (α → γ)} {g : Decoded (β → δ)} {x : Decoded α} {y : Decoded β}
    (h : Agree f g) (h' : Agree x y) : Agree (f <*> x) (g <*> y) := by
  cases h with
  | ok f g =>
    cases h' with
    | ok a b => exact .ok (f a) (g b)
    | failed is => exact .failed is
  | failed is =>
    cases h' with
    | ok a b => exact .failed is
    | failed js => exact .failed (is ++ js)

theorem Agree.under {x : Decoded α} {y : Decoded β} (h : Agree x y) (step : Step) :
    Agree (x.under step) (y.under step) := by
  cases h with
  | ok a b => exact .ok a b
  | failed is => exact .failed _

end Decoded

theorem key_of_optional {o : Fields} {key : String} {default : α} {decode : Decoder α} :
    ∀ i ∈ (Document.optional o (.plain key) default decode).issues,
      ∃ path, i.path = .key key :: path := by
  rw [optional_plain]
  cases o.get? key with
  | none => simp
  | some v => simp

theorem exists_issue_of_positive {v : Value} {is : List Issue} (h : positive v = failed is) :
    ∃ i ∈ is, i.path = [] := by
  have hcomplain : ∀ {x : Decoded Float} {c : Complaint}, x = complain c →
      ∀ is, x = failed is → ∃ i ∈ is, i.path = [] := by
    rintro _ c rfl _ ⟨⟩
    exact ⟨_, List.mem_singleton_self _, rfl⟩
  unfold positive at h
  cases hn : number v with
  | ok x =>
    rw [hn, andThen] at h
    split at h
    · cases h
    · exact hcomplain rfl is h
  | failed js =>
    rw [hn, andThen] at h
    cases h
    unfold number at hn
    split at hn
    · cases hn
    · cases hn
    · split at hn
      · cases hn
      · exact hcomplain rfl _ hn
    · split at hn
      · cases hn
      · exact hcomplain rfl _ hn
    · exact hcomplain rfl _ hn

def Issue.IsTimeout (i : Issue) : Prop :=
  i.path = [.key "contact"] ∨ i.path = [.key "contact", .key "timeout"]

end Document

def contactOf : Option Value → Decoded ContactSettings
  | some v => (ContactSettings.decode v).under (.key "contact")
  | none => ok {}

def endpointIn (o : Fields) : Decoded (Option String) :=
  Document.optional o (.plain "endpoint_url") ({} : ContactSettings).endpoint webUrl

section Contact

variable {x : Option Value} {r : Fields} {c : ContactSettings} (hr : ∀ key,
  r.get? key = if key = "timeout" then some (.float defaultTimeout) else within? key x)

include hr

theorem endpointIn_eq {o : Fields}
    (h : within? "endpoint_url" x = o.get? "endpoint_url") : endpointIn r = endpointIn o := by
  rw [endpointIn, endpointIn, optional_plain, optional_plain, hr, if_neg (by decide), h]

theorem contactOf_default : contactOf (some (.record r)) =
    (ContactSettings.mk <$> endpointIn r <*> ok defaultTimeout).under (.key "contact") := by
  have htimeout : Document.optional r (.plain "timeout") 10 positive = ok defaultTimeout := by
    rw [optional_plain, hr, if_pos rfl]
    rfl
  rw [← htimeout]
  rfl

theorem contactOf_given : contactOf x = failed [⟨[.key "contact"], .notRecord⟩] ∨
    ∃ timeout, contactOf x =
        (ContactSettings.mk <$> endpointIn r <*> timeout).under (.key "contact") ∧
      ∀ is, timeout = failed is → ∃ i ∈ is, i.path = [.key "timeout"] := by
  cases x with
  | none =>
    refine .inr ⟨ok 10, ?_, nofun⟩
    rw [endpointIn_eq hr (o := []) rfl]
    rfl
  | some v =>
    cases v with
    | record o =>
      refine .inr ⟨Document.optional o (.plain "timeout") 10 positive, ?_, ?_⟩
      · rw [endpointIn_eq hr (o := o) rfl]
        rfl
      · intro is h
        rw [optional_plain] at h
        cases hv : Fields.get? o "timeout" with
        | none =>
          rw [hv] at h
          cases h
        | some v =>
          rw [hv] at h
          dsimp only at h
          cases hp : positive v with
          | ok t =>
            rw [hp] at h
            cases h
          | failed js =>
            rw [hp] at h
            cases h
            obtain ⟨i, hi, hpath⟩ := exists_issue_of_positive hp
            exact ⟨_, List.mem_map_of_mem hi, by simp [hpath]⟩
    | _ => exact .inl rfl

theorem contactOf_default_ok (h : contactOf x = ok c) :
    contactOf (some (.record r)) = ok { c with timeout := defaultTimeout } := by
  obtain hnone | ⟨timeout, hgiven, -⟩ := contactOf_given hr
  · rw [hnone] at h
    cases h
  · rw [hgiven, under_eq_ok, seq_eq_ok] at h
    obtain ⟨_, t, hendpoint, rfl, rfl⟩ := h
    obtain ⟨endpoint, hendpoint, rfl⟩ := map_eq_ok.1 hendpoint
    rw [contactOf_default hr, hendpoint]
    rfl

theorem agree_contactOf (h : ∀ i ∈ (contactOf x).issues, ¬ i.IsTimeout) :
    Agree (contactOf x) (contactOf (some (.record r))) := by
  obtain hnone | ⟨timeout, hgiven, hfailed⟩ := contactOf_given hr
  · rw [hnone] at h
    exact absurd (.inl rfl) (h _ (List.mem_singleton_self _))
  · rw [hgiven] at h ⊢
    rw [contactOf_default hr]
    refine ((Agree.refl _).seq ?_).under _
    cases timeout with
    | ok t => exact .ok t defaultTimeout
    | failed is =>
      obtain ⟨i, hi, hpath⟩ := hfailed is rfl
      have hmem : { i with path := .key "contact" :: i.path } ∈
          (under (.key "contact") (ContactSettings.mk <$> endpointIn r <*> failed is)).issues := by
        rw [issues_under, issues_seq]
        exact List.mem_map_of_mem (List.mem_append_right _ hi)
      exact absurd (.inr (congrArg (.key "contact" :: ·) hpath)) (h _ hmem)

theorem not_isTimeout_default : ∀ i ∈ (contactOf (some (.record r))).issues, ¬ i.IsTimeout := by
  intro i hi
  rw [contactOf_default hr, issues_under, issues_seq, issues_map, issues_ok, List.append_nil] at hi
  obtain ⟨j, hj, rfl⟩ := List.mem_map.1 hi
  obtain ⟨path, hpath⟩ := key_of_optional j hj
  simp [Issue.IsTimeout, hpath]

end Contact

namespace Settings

def aroundContact (o : Fields) (contact : Decoded ContactSettings) : Decoded Settings :=
  Settings.mk
    <$> Document.optional o (.plain "owner_name") "Hassan" text
    <*> Document.optional o (.plain "logging") {} LoggingSettings.decode
    <*> Document.optional o (.plain "terminal") {} TerminalSettings.decode
    <*> contact
    <*> Document.optional o (.plain "resume") {} ResumeSettings.decode
    <*> Document.optional o (.plain "portfolio") {} SourceSettings.decode
    <*> Document.optional o (.plain "socials") {} SocialSettings.decode

variable {o o' : Fields} {contact contact' : Decoded ContactSettings} {s : Settings}

theorem ofFields_eq_aroundContact (o : Fields) :
    ofFields o = aroundContact o (contactOf (o.get? "contact")) := by
  have hcontact : Document.optional o (.plain "contact") {} ContactSettings.decode =
      contactOf (o.get? "contact") := by
    rw [optional_plain]
    cases o.get? "contact" <;> rfl
  rw [← hcontact]
  rfl

theorem aroundContact_congr (h : ∀ key, key ≠ "contact" → o.get? key = o'.get? key)
    (contact : Decoded ContactSettings) : aroundContact o contact = aroundContact o' contact := by
  have hoptional : ∀ {α : Type} {default : α} {decode : Decoder α} {key : String}, key ≠ "contact" →
      Document.optional o (.plain key) default decode =
        Document.optional o' (.plain key) default decode := by
    intro α default decode key hkey
    rw [optional_plain, optional_plain, h key hkey]
  simp only [aroundContact]
  rw [hoptional (by decide), hoptional (by decide), hoptional (by decide), hoptional (by decide),
    hoptional (by decide), hoptional (by decide)]

theorem aroundContact_eq_ok (h : aroundContact o contact = ok s) : contact = ok s.contact ∧
    ∀ c, aroundContact o (ok c) = ok { s with contact := c } := by
  simp only [aroundContact, seq_eq_ok, map_eq_ok] at h
  obtain ⟨_, _, ⟨_, _, ⟨_, _, ⟨_, _, ⟨_, _, ⟨_, _, ⟨_, howner, rfl⟩, hlogging, rfl⟩, hterminal,
    rfl⟩, hcontact, rfl⟩, hresume, rfl⟩, hsource, rfl⟩, hsocials, rfl⟩ := h
  refine ⟨hcontact, fun c => ?_⟩
  simp only [aroundContact, howner, hlogging, hterminal, hresume, hsource, hsocials, map_ok, seq_ok]

theorem agree_aroundContact (o : Fields) (h : Agree contact contact') :
    Agree (aroundContact o contact) (aroundContact o contact') :=
  ((((Agree.refl _).seq h).seq (.refl _)).seq (.refl _)).seq (.refl _)

theorem mem_issues_aroundContact {i : Issue} (h : i ∈ contact.issues) :
    i ∈ (aroundContact o contact).issues := by
  simp [aroundContact, h]

theorem isTimeout_of_mem_issues {i : Issue} (h : i ∈ (aroundContact o contact).issues)
    (hi : i.IsTimeout) : i ∈ contact.issues := by
  have hother : ∀ {α : Type} {default : α} {decode : Decoder α} {key : String}, key ≠ "contact" →
      i ∉ (Document.optional o (.plain key) default decode).issues := by
    intro α default decode key hkey hmem
    obtain ⟨path, hpath⟩ := key_of_optional i hmem
    obtain h | h := hi
    · exact hkey (Step.key.inj (List.cons.inj (hpath.symm.trans h)).1)
    · exact hkey (Step.key.inj (List.cons.inj (hpath.symm.trans h)).1)
  simpa [aroundContact, hother] using h

end Settings

namespace Environment

def without (env : Environment) (name : String) : Environment :=
  env.filter fun e => e.1 ≠ name

theorem lookup_without {name : String} (env : Environment) {k : String} (hk : k ≠ name) :
    (env.without name).lookup k = env.lookup k :=
  lookup_filter (· ≠ name) env (by simpa using hk)

theorem lookup_without_self (env : Environment) (name : String) :
    (env.without name).lookup name = none := by
  rw [lookup_eq_none_iff_notMem, List.mem_map]
  rintro ⟨e, he, rfl⟩
  exact of_decide_eq_true (List.mem_filter.1 he).2 rfl

theorem overrides_timeout {env : Environment} {t : Float} (h : env.timeout? = some t) :
    env.overrides =
      place (some "contact") "timeout" (.float t) (env.without timeoutVariable).overrides := by
  have hvars : ∀ t ∈ textVariables, t.name ≠ timeoutVariable := by decide
  have hfold : textVariables.foldl (placeText env) [] =
      textVariables.foldl (placeText (env.without timeoutVariable)) [] := by
    refine List.foldl_ext _ _ [] fun o v hv => ?_
    rw [placeText, placeText, text?, text?, lookup_without env (hvars v hv)]
  have hnone : (env.without timeoutVariable).timeout? = none := by
    rw [timeout?, lookup_without_self]
    rfl
  rw [overrides, overrides, h, hnone, hfold]

end Environment

namespace Settings

variable {file : SettingsFile} {env : Environment}

theorem get?_layered_timeout (o : Fields) {t : Float} (h : env.timeout? = some t) {key : String}
    (hkey : key ≠ "contact") :
    (layered o env).get? key = (layered o (env.without timeoutVariable)).get? key := by
  have hget : env.overrides.get? key = (env.without timeoutVariable).overrides.get? key := by
    rw [Environment.overrides_timeout h]
    exact (Fields.get?_put _ _ _ _).trans (if_neg hkey)
  rw [layered, layered, get?_overlayFields (Environment.sectioned_overrides _).keyed.distinct,
    get?_overlayFields (Environment.sectioned_overrides _).keyed.distinct, hget]

theorem contact_layered_timeout (o : Fields) {t : Float} (h : env.timeout? = some t) :
    ∃ r, (layered o env).get? "contact" = some (.record r) ∧ ∀ key, Fields.get? r key =
      if key = "timeout" then some (.float t)
      else within? key ((layered o (env.without timeoutVariable)).get? "contact") := by
  have hsection : "contact" ≠ "owner_name" := by decide
  have haddr : ∀ key, IsAddress key (some "contact") := fun _ => hsection
  have hat : ∀ (env : Environment) key, (layered o env).at? (some "contact") key =
      (env.overrides.at? (some "contact") key).or
        ((overlayFields ({} : Settings).fields o).at? (some "contact") key) := by
    intro env key
    have hsections := Environment.sectioned_overrides env
    exact at?_overlayFields_leaf hsections.keyed _ (hsections.uncovered _ (by decide))
      fun _ => Environment.isLeaf_of_at?_overrides (haddr key)
  have hwithin : ∀ key, within? key ((layered o env).get? "contact") =
      if key = "timeout" then some (.float t)
      else within? key ((layered o (env.without timeoutVariable)).get? "contact") := by
    intro key
    have hkey := hat env key
    rw [Environment.overrides_timeout h, Environment.at?_place (haddr key) (haddr _)] at hkey
    refine hkey.trans ?_
    split
    next hsame => rw [if_pos hsame.2, Option.some_or]
    next hother =>
      rw [if_neg fun heq => hother ⟨rfl, heq⟩]
      exact (hat _ key).symm
  have htimeout := hwithin "timeout"
  rw [if_pos rfl] at htimeout
  -- With a timeout below its key, the section is there and is a record.
  cases hcontact : (layered o env).get? "contact" with
  | none =>
    rw [hcontact] at htimeout
    cases htimeout
  | some v =>
    rw [hcontact] at htimeout hwithin
    cases v with
    | record r => exact ⟨r, rfl, hwithin⟩
    | _ => cases htimeout

theorem ofFields_unread (o : Fields) (h : env.timeout? = some defaultTimeout) :
    (∀ s, ofFields (layered o (env.without timeoutVariable)) = ok s →
      ofFields (layered o env) = ok { s with contact.timeout := defaultTimeout }) ∧
    (∀ is, ofFields (layered o (env.without timeoutVariable)) = failed is →
      (ofFields (layered o env) = failed is ↔ ∀ i ∈ is, ¬ i.IsTimeout)) := by
  obtain ⟨r, hcontact, hr⟩ := contact_layered_timeout o h
  rw [ofFields_eq_aroundContact (layered o env), ofFields_eq_aroundContact (layered o _), hcontact,
    aroundContact_congr fun _ => get?_layered_timeout o h]
  constructor
  · intro s hs
    obtain ⟨hgiven, hother⟩ := aroundContact_eq_ok hs
    rw [contactOf_default_ok hr hgiven, hother]
  · intro is his
    constructor
    · intro hsame i hi hissue
      have hi : i ∈ (failed is : Decoded Settings).issues := hi
      rw [← hsame] at hi
      exact not_isTimeout_default hr i (isTimeout_of_mem_issues hi hissue) hissue
    · intro hfree
      have hagree := agree_aroundContact (layered o (env.without timeoutVariable))
        (agree_contactOf hr fun i hi => hfree i ?_)
      · rw [his] at hagree
        generalize aroundContact _ (contactOf (some (.record r))) = given at hagree ⊢
        cases hagree
        rfl
      · have hmem := mem_issues_aroundContact
          (o := layered o (env.without timeoutVariable)) hi
        rwa [his] at hmem

theorem load_of_ok {o : Fields} (hfile : file.fields = .ok o)
    (h : ofFields (layered o env) = ok s) : load file env = .ok s := by
  simp only [load, hfile, h]

theorem load_of_failed {o : Fields} {is : List Issue} (hfile : file.fields = .ok o)
    (h : ofFields (layered o env) = failed is) : load file env = .error (.invalid is) := by
  simp only [load, hfile, h]

/-- A contact timeout that is no number is not ignored: the default comes in its place, over the
file. So settings are loaded as without the variable exactly when they have the default timeout
anyway, or are refused for something else than the contact timeout. -/
theorem load_timeout_unread {text : String} (hset : env.lookup timeoutVariable = some text)
    (hunread : environmentFloat? text = none) :
    (∀ s, load file (env.without timeoutVariable) = .ok s →
      load file env = .ok { s with contact.timeout := defaultTimeout } ∧
      (load file env = load file (env.without timeoutVariable) ↔
        s.contact.timeout = defaultTimeout)) ∧
    ∀ e, load file (env.without timeoutVariable) = .error e →
      (load file env = load file (env.without timeoutVariable) ↔
        ∀ i ∈ e.issues, ¬ i.IsTimeout) := by
  have htimeout : env.timeout? = some defaultTimeout := by
    rw [Environment.timeout?, hset, Option.map_some, hunread]
    rfl
  cases hfile : file.fields with
  | error e =>
    have hload : ∀ env, load file env = .error e := fun env => by simp only [load, hfile]
    have hissues : e.issues = [] := by
      obtain ⟨e', he', hissues⟩ | ⟨_, _, -, hok⟩ | hok := file.fields_cases
      · rw [hfile] at he'
        cases he'
        exact hissues
      · rw [hfile] at hok
        cases hok
      · rw [hfile] at hok
        cases hok
    rw [hload, hload]
    constructor
    · intro s h
      cases h
    · rintro _ ⟨⟩
      simp [hissues]
  | ok o =>
    obtain ⟨hok, hfailed⟩ := ofFields_unread o htimeout
    cases hs : ofFields (layered o (env.without timeoutVariable)) with
    | ok s =>
      rw [load_of_ok hfile hs, load_of_ok hfile (hok s hs)]
      constructor
      · rintro _ ⟨⟩
        refine ⟨rfl, fun h => (congrArg (·.contact.timeout) (Except.ok.inj h)).symm, ?_⟩
        intro h
        rw [← h]
      · intro e h
        cases h
    | failed is =>
      rw [load_of_failed hfile hs]
      constructor
      · intro s h
        cases h
      · rintro _ ⟨⟩
        show _ ↔ ∀ i ∈ is, ¬ i.IsTimeout
        rw [← hfailed is hs]
        cases hs' : ofFields (layered o env) with
        | ok s => simp [load_of_ok hfile hs']
        | failed js => simp [load_of_failed hfile hs']

def patientFile : SettingsFile :=
  .ofPath (fun _ => .file "contact:\n  timeout: 30\n") (some "folio.yml")

def loudFile : SettingsFile :=
  .ofPath (fun _ => .file "logging:\n  level: loud\ncontact:\n  timeout: 30\n") (some "folio.yml")

def vagueEnvironment : Environment := [("TERMINAL_CONTACT_TIMEOUT", "soon")]

theorem load_timeout_unread_vague :
    vagueEnvironment.lookup timeoutVariable = some "soon" ∧ environmentFloat? "soon" = none ∧
    load patientFile vagueEnvironment = .ok {} ∧
    load loudFile vagueEnvironment = load loudFile (vagueEnvironment.without timeoutVariable) := by
  have hset : vagueEnvironment.lookup timeoutVariable = some "soon" := by decide
  have hunread : environmentFloat? "soon" = none := by decide +kernel
  have hpatient : load patientFile (vagueEnvironment.without timeoutVariable) =
      .ok { contact := { timeout := 30 } } := by
    decide +kernel
  have hloud : load loudFile (vagueEnvironment.without timeoutVariable) =
      .error (.invalid [⟨[.key "logging", .key "level"], .notMember⟩]) := by
    decide +kernel
  refine ⟨hset, hunread, ((load_timeout_unread hset hunread).1 _ hpatient).1,
    ((load_timeout_unread hset hunread).2 _ hloud).2 ?_⟩
  simp [SettingsError.issues, Issue.IsTimeout]

theorem timeout_unread_over_file :
    vagueEnvironment.lookup timeoutVariable = some "soon" ∧ environmentFloat? "soon" = none ∧
    load patientFile vagueEnvironment ≠
      load patientFile (vagueEnvironment.without timeoutVariable) := by
  decide +kernel

end Settings

end Folio
