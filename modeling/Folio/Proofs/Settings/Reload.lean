import Folio.Proofs.Settings.Defaults
import Folio.Proofs.Settings.Load
import Folio.Proofs.Settings.Valid

namespace Folio

open Folio.Document Folio.Document.Decoded Folio.Text

namespace Settings

variable {s : Settings}

/-- Settings that were accepted are loaded again, with nothing set in the environment, from a file
that has each of them as their document has it. -/
theorem load_heldIn {v : Value} (h : decode v = ok s) {file : SettingsFile} (hfile : file.Keyed)
    {o : Fields} (hfields : file.fields = .ok o) (ho : s.HeldIn o) : load file [] = .ok s := by
  obtain ⟨given, -, hgiven⟩ := record_eq_ok.1 h
  have hlayered : ofFields (layered o []) = ofFields o := ofFields_over_defaults (hfile o hfields)
  refine load_eq_ok.2 ⟨o, hfields, ?_⟩
  rw [hlayered]
  exact ofFields_of_heldIn (valid_of_ofFields hgiven) ho

def givenDocument : Value := .record [
  ("owner_name", .text "Ada"), ("logging", .record [("level", .text "DEBUG")]),
  ("terminal", .record [("default_theme", .text " CyberPunk ")]),
  ("contact", .record [("endpoint_url", .null), ("timeout", .text "2.5")]),
  ("portfolio", .record [("api_url", .text "http://example.com/p"), ("timeout", .int 30)])]

def accepted : Settings := {
  ownerName := "Ada"
  logging := { level := .debug }
  terminal := { theme := .cyberpunk }
  contact := { endpoint := none, timeout := 2.5 }
  source := { url := "http://example.com/p", timeout := 30 } }

def acceptedFields : Fields := [
  ("portfolio", .record [("timeout", .float 30), ("data_file", .null),
    ("api_url", .text "http://example.com/p")]),
  ("resume", .record [("filename", .text "Hassan_Kazmi_Resume.pdf"), ("url", .text "/api/resume")]),
  ("logging", .record [("log_file", .null), ("level", .text "DEBUG")]),
  ("terminal", .record [("default_theme", .text "cyberpunk"), ("prompt", .text "❯ ")]),
  ("contact", .record [("timeout", .float 2.5), ("endpoint_url", .null)]),
  ("colour", .text "green"), ("owner_name", .text "Ada"),
  ("socials", accepted.socials.toDocument)]

theorem keyed_acceptedFields : acceptedFields.Keyed := by
  refine ⟨by decide, fun k inner h => ?_⟩
  have hmem := Fields.mem_of_get? h
  simp only [acceptedFields, SocialSettings.toDocument, List.mem_cons, Prod.mk.injEq,
    Value.record.injEq, List.not_mem_nil, reduceCtorEq, and_false, or_false, false_or] at hmem
  obtain ⟨-, rfl⟩ | ⟨-, rfl⟩ | ⟨-, rfl⟩ | ⟨-, rfl⟩ | ⟨-, rfl⟩ | ⟨-, rfl⟩ := hmem <;> decide

theorem load_heldIn_reordered : decode givenDocument = ok accepted ∧
    ∃ file : SettingsFile, file.Keyed ∧ file.fields = .ok acceptedFields ∧
      accepted.HeldIn acceptedFields ∧ load file [] = .ok accepted := by
  have hgiven : decode givenDocument = ok accepted := rfl
  have hyaml : Path.isYaml "folio.yml" = true := by decide +kernel
  have hfields : (SettingsFile.present "folio.yml" (.ok (.record acceptedFields))).fields =
      .ok acceptedFields := by
    rw [SettingsFile.fields_record, hyaml]
    rfl
  have hkeyed : (SettingsFile.present "folio.yml" (.ok (.record acceptedFields))).Keyed := by
    intro o ho
    rw [hfields] at ho
    exact Except.ok.inj ho ▸ keyed_acceptedFields
  have hheld : accepted.HeldIn acceptedFields := by
    simp only [HeldIn, Setting.all, List.forall_mem_cons]
    exact ⟨rfl, rfl, rfl, rfl, rfl, rfl, rfl, rfl, rfl, rfl, rfl, rfl, rfl, rfl, rfl,
      List.forall_mem_nil _⟩
  exact ⟨hgiven, _, hkeyed, hfields, hheld, load_heldIn hgiven hkeyed hfields hheld⟩

end Settings

end Folio
