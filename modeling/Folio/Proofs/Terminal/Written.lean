import Folio.Proofs.Portfolio.Snapshot
import Folio.Proofs.Terminal.Builtin

namespace Folio

open Folio.Command Folio.Contact Folio.Document Folio.Portfolio Folio.Terminal

namespace Content

def formless : Content → Content
  | plain text => plain text
  | element node data text _ => element node data text none

@[simp] theorem text_formless (c : Content) : c.formless.text = c.text := by
  cases c <;> rfl

@[simp] theorem form?_formless (c : Content) : c.formless.form? = none := by
  cases c <;> rfl

theorem decode_toDocument (c : Content) : decode c.toDocument = .ok c.formless := by
  cases c <;> rfl

theorem isJson_plain (text : String) : (plain text).toDocument.IsJson :=
  isJson_two (.text _) (.text _) _ _

theorem isJson_element {node text : String} {data : Fields} {form : Option ContactForm}
    (h : (Value.record data).IsJson) : (element node data text form).toDocument.IsJson := by
  refine .record ?_
  simp only [List.forall_mem_cons]
  exact ⟨.text _, .text _, h, .text _, by simp⟩

theorem exists_toDocument (c : Content) :
    ∃ fields, c.toDocument = .record fields ∧ Fields.get? fields "form" = none := by
  cases c with
  | plain text => exact ⟨_, rfl, by simp [Fields.get?, List.lookup]⟩
  | element node data text form => exact ⟨_, rfl, by simp [Fields.get?, List.lookup]⟩

end Content

namespace Action

theorem named?_name (a : Action) : named? a.name = some a := by
  cases a <;> decide

end Action

namespace Output

def formless (o : Output) : Output := { o with content := o.content.formless }

theorem decode_toDocument (o : Output) : decode o.toDocument = .ok o.formless := by
  have haction : oneOf .notMember Action.named? (.text o.action.name) = .ok o.action := by
    simp [oneOf, Action.named?_name]
  simp [decode, record, toDocument, required, Document.optional, Fields.find?, Fields.get?,
    List.lookup, Spelling.plain, Content.decode_toDocument, haction, formless]

theorem isJson_toDocument {o : Output} (h : o.content.toDocument.IsJson) : o.toDocument.IsJson := by
  refine .record ?_
  simp only [List.forall_mem_cons]
  exact ⟨.bool _, h, isJson_ofOption .text _, .text _, by simp⟩

end Output

namespace Terminal

/-- The outputs that the service answers with: pages and failures, the one that clears the log, and
each of the elements. -/
inductive Made (s : Settings) (channel : Option Channel) (data : Option Snapshot) : Output → Prop
  | page (text : String) : Made s channel data (.plain text)
  | failure (text error : String) : Made s channel data (.failure (.plain text) error)
  | clear : Made s channel data .clear
  | contact : Made s channel data (contactOutput channel data)
  | resume : Made s channel data (resumeOutput s.resume)
  | profile (n : Network) : Made s channel data (n.output s.socials data)
  | scene (scene : Scene) : Made s channel data scene.output
  | themes (current : Theme) : Made s channel data (themeList current)
  | themeUnknown (requested : String) : Made s channel data (themeUnknown requested)

section Standard

variable (s : Settings) (channel : Option Channel) {i : Invocation} {context : Context}
  {data : Option Snapshot} {o : Output}

namespace Builtin

theorem made_listing {x : Except Time.ZoneClash String} (h : listing x = .ok o) :
    Made s channel data o := by
  cases x with
  | ok text =>
    cases h
    exact .page text
  | error clash => cases h

theorem made_output {b : Builtin} (hb : b ≠ theme) (h : b.output s channel i context = .ok o) :
    Made s channel context.data o := by
  cases b with
  | theme => exact absurd rfl hb
  | experience => exact made_listing s channel h
  | certifications => exact made_listing s channel h
  | stats => exact made_listing s channel h
  | contact => cases h; exact .contact
  | resume => cases h; exact .resume
  | clear => cases h; exact .clear
  | social n => cases h; exact .profile n
  | egg scene => cases h; exact .scene scene
  | _ => cases h; exact .page _

theorem made_runTheme (i : Invocation) (current : Theme) :
    Made s channel data (runTheme i current).output := by
  unfold runTheme
  split
  · exact .themes current
  · split
    · exact .page _
    · exact .themeUnknown _

theorem made_settled (b : Builtin) (i : Invocation) (context : Context) :
    Made s channel context.data (b.settled s channel i context).output := by
  by_cases hb : b = theme
  · subst hb
    exact made_runTheme s channel i context.theme
  · rw [settled, run_eq_output s channel hb]
    cases ho : b.output s channel i context with
    | ok o => exact made_output s channel hb ho
    | error fault => exact .failure _ _

end Builtin

theorem execute_made {result : Result}
    (h : (Service.standard s channel).registry.execute i context = .ok result) :
    Made s channel context.data result.output := by
  rw [execute_eq] at h
  rw [← Except.ok.inj h]
  cases Builtin.named? ((Service.standard s channel).registry.resolve i.command) with
  | some b =>
    have hmade := b.made_settled s channel i ((Service.standard s channel).registry.shown context)
    rwa [Registry.shown_data] at hmade
  | none =>
    dsimp only
    unfold unanswered
    split
    · exact .failure _ _
    · exact .failure _ _

theorem isJson_available : available.IsJson := isJson_map .text Theme.names

theorem Made.isJson (h : Made s channel data o) : o.content.toDocument.IsJson := by
  cases h with
  | page text => exact Content.isJson_plain text
  | failure text error => exact Content.isJson_plain text
  | clear => exact Content.isJson_plain ""
  | contact =>
    have hfields : (Value.list (Field.all.map fun f => .text f.key)).IsJson :=
      isJson_map (fun f => .text f.key) Field.all
    refine Content.isJson_element (.record ?_)
    rw [List.forall_mem_cons]
    refine ⟨hfields, ?_⟩
    cases data with
    | none => simp
    | some p => simpa using isJson_contactInfo p.contactInfo
  | resume => exact Content.isJson_element (isJson_two (.text _) (.text _) _ _)
  | profile n => exact Content.isJson_element (isJson_two (.text _) (.text _) _ _)
  | scene scene => exact Content.isJson_element (isJson_two (.text _) (.text _) _ _)
  | themes current => exact Content.isJson_element (isJson_two (.text _) isJson_available _ _)
  | themeUnknown requested =>
    exact Content.isJson_element (isJson_two (.text _) isJson_available _ _)

/-- Whatever is invoked, what comes of it is written as a document that JSON can hold and in which
there is no form, and is read back from it with the same verdict, error and action, and the same
content but for the form. -/
theorem execute_written (i : Invocation) (context : Context) :
    ∃ result, (Service.standard s channel).registry.execute i context = .ok result ∧
      result.output.toDocument.IsJson ∧
      (∃ fields content, result.output.toDocument = .record fields ∧
        Fields.get? fields "content" = some (.record content) ∧
        Fields.get? content "form" = none) ∧
      ∃ again, Output.decode result.output.toDocument = .ok again ∧
        again.success = result.output.success ∧ again.error = result.output.error ∧
        again.action = result.output.action ∧ again.text = result.output.text ∧
        again.content = result.output.content.formless ∧ again.content.form? = none := by
  obtain ⟨result, h⟩ := execute_total s channel i context
  obtain ⟨content, hcontent, hform⟩ := result.output.content.exists_toDocument
  refine ⟨result, h, Output.isJson_toDocument (execute_made s channel h).isJson, ?_,
    result.output.formless, result.output.decode_toDocument, rfl, rfl, rfl, ?_, rfl, ?_⟩
  · refine ⟨_, content, rfl, ?_, hform⟩
    rw [← hcontent]
    rfl
  · exact result.output.content.text_formless
  · exact result.output.content.form?_formless

end Standard

end Terminal

end Folio
