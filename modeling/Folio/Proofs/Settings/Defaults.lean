import Folio.Proofs.Settings.Environment

namespace Folio

open Folio.Document Folio.Document.Decoded

def Yields (base o : Fields) (decode : Decoder α) (key : String) (default : α) : Prop :=
  ∃ d, base.get? key = some d ∧ decode d = ok default ∧
    ∀ v, o.get? key = some v → decode (overlay (some d) v) = decode v

section Fields

variable {base o : Fields} {key : String} {default : α} {decode : Decoder α}

theorem yields_leaf {d : Value} (hbase : base.get? key = some d) (hleaf : d.IsLeaf)
    (hdefault : decode d = ok default) (o : Fields) : Yields base o decode key default :=
  ⟨d, hbase, hdefault, fun v _ => by rw [overlay_over_leaf hleaf]⟩

theorem optional_over (ho : o.Distinct) (h : Yields base o decode key default) :
    Document.optional (overlayFields base o) (.plain key) default decode =
      Document.optional o (.plain key) default decode := by
  obtain ⟨d, hbase, hdefault, hover⟩ := h
  rw [optional_plain, optional_plain, get?_overlayFields ho, hbase]
  cases hv : o.get? key with
  | none => exact congrArg (under (.key key)) hdefault
  | some v => exact congrArg (under (.key key)) (hover v hv)

end Fields

section Sections

variable {α β γ σ : Type} {base : Fields} {k₁ k₂ k₃ : String} {d₁ : α} {d₂ : β} {d₃ : γ}
variable {decode₁ : Decoder α} {decode₂ : Decoder β} {decode₃ : Decoder γ} {v : Value}

theorem record_over {f : Fields → Decoded σ}
    (h : ∀ o : Fields, o.Distinct → f (overlayFields base o) = f o)
    (hv : ∀ inner, v = .record inner → Fields.Distinct inner) :
    record f (overlay (some (.record base)) v) = record f v := by
  cases v with
  | record inner => exact h inner (hv inner rfl)
  | _ => rfl

theorem over_two (mk : α → β → σ) (h₁ : ∀ o, Yields base o decode₁ k₁ d₁)
    (h₂ : ∀ o, Yields base o decode₂ k₂ d₂)
    (hv : ∀ inner, v = .record inner → Fields.Distinct inner) :
    record (fun o => mk
      <$> Document.optional o (.plain k₁) d₁ decode₁
      <*> Document.optional o (.plain k₂) d₂ decode₂) (overlay (some (.record base)) v) =
    record (fun o => mk
      <$> Document.optional o (.plain k₁) d₁ decode₁
      <*> Document.optional o (.plain k₂) d₂ decode₂) v := by
  refine record_over (fun o ho => ?_) hv
  rw [optional_over ho (h₁ o), optional_over ho (h₂ o)]

theorem over_three (mk : α → β → γ → σ) (h₁ : ∀ o, Yields base o decode₁ k₁ d₁)
    (h₂ : ∀ o, Yields base o decode₂ k₂ d₂) (h₃ : ∀ o, Yields base o decode₃ k₃ d₃)
    (hv : ∀ inner, v = .record inner → Fields.Distinct inner) :
    record (fun o => mk
      <$> Document.optional o (.plain k₁) d₁ decode₁
      <*> Document.optional o (.plain k₂) d₂ decode₂
      <*> Document.optional o (.plain k₃) d₃ decode₃) (overlay (some (.record base)) v) =
    record (fun o => mk
      <$> Document.optional o (.plain k₁) d₁ decode₁
      <*> Document.optional o (.plain k₂) d₂ decode₂
      <*> Document.optional o (.plain k₃) d₃ decode₃) v := by
  refine record_over (fun o ho => ?_) hv
  rw [optional_over ho (h₁ o), optional_over ho (h₂ o), optional_over ho (h₃ o)]

end Sections

namespace Settings

theorem ofFields_over_defaults {o : Fields} (h : o.Keyed) :
    ofFields (overlayFields ({} : Settings).fields o) = ofFields o := by
  have hinner (name : String) (v : Value) (hv : o.get? name = some v) :
      ∀ inner, v = .record inner → Fields.Distinct inner := by
    rintro inner rfl
    exact h.inner name inner hv
  have howner : ∀ o, Yields ({} : Settings).fields o text "owner_name" "Hassan" :=
    yields_leaf rfl nofun rfl
  have hlogging : Yields ({} : Settings).fields o LoggingSettings.decode "logging" {} :=
    ⟨_, rfl, rfl, fun v hv => over_two LoggingSettings.mk (yields_leaf rfl nofun rfl)
      (yields_leaf rfl nofun rfl) (hinner _ v hv)⟩
  have hterminal : Yields ({} : Settings).fields o TerminalSettings.decode "terminal" {} :=
    ⟨_, rfl, rfl, fun v hv => over_two TerminalSettings.mk (yields_leaf rfl nofun rfl)
      (yields_leaf rfl nofun rfl) (hinner _ v hv)⟩
  have hcontact : Yields ({} : Settings).fields o ContactSettings.decode "contact" {} :=
    ⟨_, rfl, rfl, fun v hv => over_two ContactSettings.mk (yields_leaf rfl nofun rfl)
      (yields_leaf rfl nofun rfl) (hinner _ v hv)⟩
  have hresume : Yields ({} : Settings).fields o ResumeSettings.decode "resume" {} :=
    ⟨_, rfl, rfl, fun v hv => over_two ResumeSettings.mk (yields_leaf rfl nofun rfl)
      (yields_leaf rfl nofun rfl) (hinner _ v hv)⟩
  have hsource : Yields ({} : Settings).fields o SourceSettings.decode "portfolio" {} :=
    ⟨_, rfl, rfl, fun v hv => over_three SourceSettings.mk (yields_leaf rfl nofun rfl)
      (yields_leaf rfl nofun rfl) (yields_leaf rfl nofun rfl) (hinner _ v hv)⟩
  have hsocials : Yields ({} : Settings).fields o SocialSettings.decode "socials" {} :=
    ⟨_, rfl, rfl, fun v hv => over_three SocialSettings.mk (yields_leaf rfl nofun rfl)
      (yields_leaf rfl nofun rfl) (yields_leaf rfl nofun rfl) (hinner _ v hv)⟩
  rw [ofFields, ofFields, optional_over h.distinct (howner o), optional_over h.distinct hlogging,
    optional_over h.distinct hterminal, optional_over h.distinct hcontact,
    optional_over h.distinct hresume, optional_over h.distinct hsource,
    optional_over h.distinct hsocials]

/-- Without a file the environment alone decides: the settings are those it holds, and they are
refused exactly when it is, with the same complaints. -/
theorem load_none (env : Environment) :
    (∀ s, load .none env = .ok s ↔ ofEnvironment env = ok s) ∧
    (∀ e, load .none env = .error e ↔
      ∃ issues, ofEnvironment env = .failed issues ∧ e = .invalid issues) := by
  have hlayered : ofFields (layered [] env) = ofEnvironment env :=
    ofFields_over_defaults (Environment.sectioned_overrides env).keyed
  have hfields : SettingsFile.fields .none = .ok [] := rfl
  simp only [load, hfields, hlayered]
  cases ofEnvironment env with
  | ok s => simp
  | failed issues => simp [eq_comm]

end Settings

end Folio
