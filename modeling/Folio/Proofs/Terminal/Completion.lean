import Folio.Proofs.Command.Completion
import Folio.Proofs.Terminal.Builtin

namespace Folio.Terminal

open Folio.Command Folio.Contact Folio.Text

theorem Builtin.name_typed : ∀ b ∈ Builtin.all, sought b.name = b.name ∧
    'σ' ∉ b.name.toList ∧ 'ς' ∉ b.name.toList := by
  decide +kernel

section Standard

variable (s : Settings) (channel : Option Channel)

theorem visibleName_typed {name : String}
    (h : name ∈ (Service.standard s channel).registry.visibleNames) :
    sought name = name ∧ 'σ' ∉ name.toList ∧ 'ς' ∉ name.toList := by
  rw [Service.standard_eq, Registry.visibleNames_holding] at h
  obtain ⟨g, hg, rfl⟩ := List.mem_map.1 h
  obtain ⟨b, rfl⟩ := Builtin.eq_handler_of_mem s channel (List.mem_of_mem_filter hg)
  rw [Builtin.key_handler]
  exact Builtin.name_typed b b.mem_all

/-- Whatever is registered, refusals caught, the names in completions and suggestions are those of
visible handlers and run them. In the standard service typing on narrows the completions. -/
theorem offered_runs (hs : List Handler) :
    (Registry.attemptAll {} hs).RunsOffered (Registry.accepted {} hs) ∧
    (Service.standard s channel).registry.Narrows :=
  ⟨Registry.runsOffered_attemptAll hs,
    Registry.narrows_of_names fun _ => visibleName_typed s channel⟩

end Standard

/-- The sign of the unit kelvin is lowered to a letter. -/
example : (Service.standard {} none).registry.completion? " S\u212A " = some "skills" := by
  decide +kernel

end Folio.Terminal
