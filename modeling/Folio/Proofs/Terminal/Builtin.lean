import Folio.Proofs.Command.Registry
import Folio.Proofs.Portfolio.Timeline
import Folio.Terminal.Builtin
/-!
The standard service: its commands are all registered, none of them is ever interrupted, and on
sound sections none of them fails.
-/

namespace Folio

open Folio.Command Folio.Contact Folio.Portfolio Folio.Text Folio.Time

theorem Theme.named?_lower (name : String) : Theme.named? (lower name) = Theme.named? name := by
  rw [Theme.named?, strip_lower, lower_lower, ← Theme.named?]

namespace Terminal

section Standard

variable (s : Settings) (channel : Option Channel)

namespace Builtin

theorem mem_all (b : Builtin) : b ∈ all := by
  cases b with
  | social n => cases n <;> decide
  | egg scene => cases scene <;> decide
  | _ => decide

theorem name_info (b : Builtin) : (b.info s).name = b.name := by
  cases b <;> rfl

theorem aliases_info (b : Builtin) : (b.info s).aliases = (b.info {}).aliases := by
  cases b <;> rfl

theorem lower_name : ∀ b ∈ all, lower b.name = b.name := by
  decide +kernel

theorem name_theme : ∀ b ∈ all, b.name = "theme" ↔ b = theme := by
  decide +kernel

theorem name_contact (b : Builtin) : b.name = "contact" ↔ b = contact := by
  have hall : ∀ b ∈ all, b.name = "contact" ↔ b = contact := by decide +kernel
  exact hall b b.mem_all

theorem key_handler (b : Builtin) : (b.handler s channel).key = b.name := by
  rw [Handler.key, handler, name_info, lower_name b b.mem_all]

theorem keys_handler (b : Builtin) :
    (b.handler s channel).keys = b.name :: (b.info {}).aliases.map lower := by
  rw [Handler.keys, key_handler, Handler.otherKeys, handler, aliases_info]

theorem nodup_keys : (all.flatMap fun b => b.name :: (b.info {}).aliases.map lower).Nodup ∧
    "" ∉ all.flatMap fun b => b.name :: (b.info {}).aliases.map lower := by
  decide +kernel

def handlers : List Handler := all.map (handler s channel)

theorem keys_handlers : (handlers s channel).flatMap Handler.keys =
    all.flatMap fun b => b.name :: (b.info {}).aliases.map lower := by
  rw [handlers, List.flatMap_map]
  exact congrArg (all.flatMap ·) (funext (keys_handler s channel))

theorem distinct_handlers : Distinct (handlers s channel) := by
  rw [Distinct, keys_handlers]
  exact nodup_keys.1

theorem empty_notMem_keys {h : Handler} (hh : h ∈ handlers s channel) : "" ∉ h.keys := by
  intro hk
  apply nodup_keys.2
  rw [← keys_handlers s channel]
  exact List.mem_flatMap_of_mem hh hk

theorem eq_handler_of_mem {h : Handler} (hh : h ∈ handlers s channel) :
    ∃ b : Builtin, h = b.handler s channel := by
  obtain ⟨b, -, rfl⟩ := List.mem_map.1 hh
  exact ⟨b, rfl⟩

end Builtin

theorem Service.standard_eq :
    Service.standard s channel = ⟨s, channel, Registry.holding (Builtin.handlers s channel)⟩ := by
  have hnames : ∀ h ∈ Builtin.handlers s channel, h.key ≠ "" := by
    intro h hh hkey
    exact Builtin.empty_notMem_keys s channel hh (hkey ▸ List.mem_cons_self)
  have hall : registerAll s channel {} Builtin.all =
      .ok (Registry.holding (Builtin.handlers s channel)) := by
    have hok := @Registry.registerAll_ok [] _ hnames (Builtin.distinct_handlers s channel)
    rwa [Builtin.handlers, List.foldlM_map] at hok
  rw [Service.standard, hall]

def Succeeds (x : Except Fault Output) : Prop :=
  ∃ o, x = .ok o ∧ o.success = true ∧ o.error = none

theorem succeeds_plain (text : String) : Succeeds (.ok (.plain text)) :=
  ⟨_, rfl, rfl, rfl⟩

theorem succeeds_element (node text : String) (data : Document.Fields) (form : Option ContactForm) :
    Succeeds (.ok (.element node text data form)) :=
  ⟨_, rfl, rfl, rfl⟩

theorem succeeds_listing {x : Except ZoneClash String} (h : ∃ text, x = .ok text) :
    Succeeds (Builtin.listing x) := by
  obtain ⟨text, rfl⟩ := h
  exact succeeds_plain text

def NamesNoTheme (i : Invocation) : Prop :=
  ∃ arg rest, i.args = arg :: rest ∧ Theme.named? arg = none

namespace Builtin

variable {i : Invocation} {context : Context}

theorem output_succeeds {b : Builtin} (hb : b ≠ theme) (hnow : context.now.isAware = true)
    (hdata : ∀ p ∈ context.data, p.Sound) : Succeeds (b.output s channel i context) := by
  have hsections : ∀ f : Snapshot → List Section, (∀ p, p.Sound → ∀ t ∈ f p, t.Sound) →
      ∀ t ∈ (context.data.map f).getD [], t.Sound := by
    intro f hf
    cases hd : context.data with
    | none => simp
    | some p => exact hf p (hdata p hd)
  cases b with
  | experience =>
    exact succeeds_listing ⟨_, workListing_sound hnow (hsections _ fun p hp =>
      (Snapshot.sound_iff.1 hp).2.1)⟩
  | certifications =>
    exact succeeds_listing ⟨_, certificationListing_sound hnow (hsections _ fun p hp =>
      (Snapshot.sound_iff.1 hp).2.2.2.1)⟩
  | stats =>
    have hstats : ∃ stats, statsOf context.data context.now = .ok stats := by
      cases hd : context.data with
      | none => exact ⟨_, rfl⟩
      | some p => exact ⟨_, statsOf_sound hnow (hdata p hd)⟩
    obtain ⟨stats, hstats⟩ := hstats
    refine succeeds_listing ⟨stats.page, ?_⟩
    rw [hstats]
    rfl
  | theme => exact absurd rfl hb
  | clear => exact ⟨_, rfl, rfl, rfl⟩
  | help => exact succeeds_plain _
  | about => exact succeeds_plain _
  | skills => exact succeeds_plain _
  | projects => exact succeeds_plain _
  | history => exact succeeds_plain _
  | hello => exact succeeds_plain _
  | bye => exact succeeds_plain _
  | contact => exact succeeds_element _ _ _ _
  | resume => exact succeeds_element _ _ _ _
  | social n => exact succeeds_element _ _ _ _
  | egg scene => exact succeeds_element _ _ _ _

theorem runTheme_success (i : Invocation) (current : Theme) :
    ((runTheme i current).output.success = false ↔ NamesNoTheme i) ∧
      ((runTheme i current).output.error = none ↔ (runTheme i current).output.success = true) := by
  unfold runTheme NamesNoTheme
  split
  next hargs => simp [hargs, themeList, Output.element]
  next arg rest hargs =>
    rw [Theme.named?_lower]
    split
    next chosen hchosen => simp [hargs, hchosen, themeChanged, Output.plain]
    next hnone => simp [hargs, hnone, themeUnknown, Output.failure]

theorem run_eq_output {b : Builtin} (hb : b ≠ theme) (i : Invocation) (context : Context) :
    b.run s channel i context = (b.output s channel i context).map (⟨·, context.theme⟩) := by
  unfold run
  split
  next => exact absurd rfl hb
  next => rfl

theorem run_total (b : Builtin) (i : Invocation) (context : Context)
    (hnow : context.now.isAware = true) (hdata : ∀ p ∈ context.data, p.Sound) :
    ∃ result, b.run s channel i context = .ok result ∧
      (result.output.success = false ↔ b = theme ∧ NamesNoTheme i) ∧
      (result.output.error = none ↔ result.output.success = true) := by
  by_cases hb : b = theme
  · obtain ⟨hsuccess, herror⟩ := runTheme_success i context.theme
    refine ⟨runTheme i context.theme, ?_, ?_, herror⟩
    · rw [hb]
      rfl
    · simp [hb, hsuccess]
  · obtain ⟨o, ho, hsuccess, herror⟩ := output_succeeds s channel hb hnow hdata
    refine ⟨⟨o, context.theme⟩, ?_, by simp [hb, hsuccess], by simp [hsuccess, herror]⟩
    rw [run_eq_output s channel hb, ho]
    rfl

theorem listing_error {x : Except ZoneClash String} {fault : Fault} (h : listing x = .error fault) :
    ∃ clash, fault = .zones clash := by
  cases x with
  | ok text => cases h
  | error clash =>
    cases h
    exact ⟨clash, rfl⟩

theorem run_error {b : Builtin} {fault : Fault} (h : b.run s channel i context = .error fault) :
    ∃ clash, fault = .zones clash := by
  have hb : b ≠ theme := by
    rintro rfl
    cases h
  rw [run_eq_output s channel hb] at h
  have houtput : b.output s channel i context = .error fault := by
    cases ho : b.output s channel i context with
    | ok o =>
      rw [ho] at h
      cases h
    | error fault' =>
      rw [ho] at h
      cases h
      rfl
  cases b with
  | experience => exact listing_error houtput
  | certifications => exact listing_error houtput
  | stats => exact listing_error houtput
  | _ => cases houtput

end Builtin

namespace Builtin

theorem named?_eq_some {x : String} {b : Builtin} : named? x = some b ↔ x = b.name := by
  constructor
  · intro h
    simpa [eq_comm] using List.find?_some h
  · rintro rfl
    have hall : ∀ b ∈ all, named? b.name = some b := by decide +kernel
    exact hall b b.mem_all

def settled (b : Builtin) (i : Invocation) (context : Context) : Result :=
  match b.run s channel i context with
  | .ok result => result
  | .error fault => ⟨failed fault, context.theme⟩

end Builtin

theorem resolve_empty : (Service.standard s channel).registry.resolve "" = "" := by
  rw [Service.standard_eq]
  exact Registry.resolve_other fun g hg hk =>
    Builtin.empty_notMem_keys s channel hg (List.mem_cons_of_mem _ hk)

theorem resolve_standard {b : Builtin} {x : String}
    (hx : lower x ∈ b.name :: (b.info {}).aliases.map lower) :
    (Service.standard s channel).registry.resolve x = b.name := by
  have hanswers : (b.handler s channel).answersTo x = true := by
    rw [← Builtin.keys_handler s channel b] at hx
    simpa [Handler.answersTo] using hx
  have hfound := Registry.get?_holding (Builtin.distinct_handlers s channel)
    (List.mem_map_of_mem b.mem_all) hanswers
  rw [Service.standard_eq]
  exact (Registry.get?_eq_some hfound).2.trans (b.key_handler s channel)

theorem get?_standard (x : String) : (Service.standard s channel).registry.get? x =
    (Builtin.named? ((Service.standard s channel).registry.resolve x)).map
      (Builtin.handler s channel) := by
  rw [Service.standard_eq]
  have hd := Builtin.distinct_handlers s channel
  cases hnamed : Builtin.named? ((Registry.holding (Builtin.handlers s channel)).resolve x) with
  | some b =>
    have hfound := Registry.lookup_commands hd
      (List.mem_map_of_mem (f := Builtin.handler s channel) b.mem_all)
    rw [Builtin.key_handler] at hfound
    rw [Registry.get?, Builtin.named?_eq_some.1 hnamed]
    exact hfound
  | none =>
    cases hget : (Registry.holding (Builtin.handlers s channel)).get? x with
    | none => rfl
    | some g =>
      obtain ⟨hmem, hresolve⟩ := Registry.get?_eq_some hget
      obtain ⟨b, rfl⟩ := Builtin.eq_handler_of_mem s channel hmem
      rw [hresolve, Builtin.key_handler, Builtin.named?_eq_some.2 rfl] at hnamed
      cases hnamed

def unanswered (r : Registry) (i : Invocation) : Output :=
  if i.command = "" then noCommand else notFound r (lower i.command)

theorem execute_eq (i : Invocation) (context : Context) :
    (Service.standard s channel).registry.execute i context = .ok
      (match Builtin.named? ((Service.standard s channel).registry.resolve i.command) with
      | some b => b.settled s channel i ((Service.standard s channel).registry.shown context)
      | none => ⟨unanswered (Service.standard s channel).registry i, context.theme⟩) := by
  have hget := get?_standard s channel i.command
  by_cases hempty : i.command = ""
  · have hnone : Builtin.named? "" = none := by decide
    rw [Registry.execute_empty _ hempty, hempty, resolve_empty, hnone, unanswered, if_pos hempty]
  rw [Service.standard_eq] at hget ⊢
  have hd := Builtin.distinct_handlers s channel
  cases hnamed : Builtin.named?
      ((Registry.holding (Builtin.handlers s channel)).resolve i.command) with
  | none =>
    rw [hnamed] at hget
    rw [Registry.execute_notFound hd hempty hget, unanswered, if_neg hempty]
  | some b =>
    rw [hnamed] at hget
    cases hrun : b.run s channel i
        ((Registry.holding (Builtin.handlers s channel)).shown context) with
    | ok result =>
      rw [Registry.execute_ok hd hempty hget hrun]
      simp only [Builtin.settled, hrun]
    | error fault =>
      obtain ⟨clash, rfl⟩ := Builtin.run_error s channel hrun
      rw [Registry.execute_failed hd hempty hget hrun nofun]
      simp only [Builtin.settled, hrun]
      rfl

theorem execute_total (i : Invocation) (context : Context) :
    ∃ result, (Service.standard s channel).registry.execute i context = .ok result :=
  ⟨_, execute_eq s channel i context⟩

namespace Builtin

theorem form?_listing {x : Except ZoneClash String} {o : Output} (h : listing x = .ok o) :
    o.content.form? = none := by
  cases x with
  | ok text =>
    cases h
    rfl
  | error clash => cases h

theorem form?_runTheme (i : Invocation) (current : Theme) :
    (runTheme i current).output.content.form? = none := by
  unfold runTheme
  split
  · rfl
  · split <;> rfl

theorem form?_run {b : Builtin} (hb : b ≠ contact) {result : Result}
    (h : b.run s channel i context = .ok result) : result.output.content.form? = none := by
  by_cases htheme : b = theme
  · subst htheme
    cases h
    exact form?_runTheme i context.theme
  · rw [run_eq_output s channel htheme] at h
    cases ho : b.output s channel i context with
    | error fault =>
      rw [ho] at h
      cases h
    | ok o =>
      rw [ho] at h
      cases h
      cases b with
      | contact => exact absurd rfl hb
      | experience => exact form?_listing ho
      | certifications => exact form?_listing ho
      | stats => exact form?_listing ho
      | theme => exact absurd rfl htheme
      | _ =>
        cases ho
        rfl

theorem form?_settled {b : Builtin} (hb : b ≠ contact) :
    (b.settled s channel i context).output.content.form? = none := by
  unfold settled
  split
  next result h => exact form?_run s channel hb h
  next => rfl

theorem settled_contact : (contact.settled s channel i context).output =
    contactOutput channel context.data := rfl

end Builtin

theorem execute_form {i : Invocation} {context : Context} {result : Result}
    (h : (Service.standard s channel).registry.execute i context = .ok result) :
    ((Service.standard s channel).registry.resolve i.command = "contact" ∧
        result.output = contactOutput channel context.data) ∨
      ((Service.standard s channel).registry.resolve i.command ≠ "contact" ∧
        result.output.content.form? = none) := by
  rw [execute_eq] at h
  rw [← Except.ok.inj h]
  cases hnamed : Builtin.named? ((Service.standard s channel).registry.resolve i.command) with
  | none =>
    refine .inr ⟨fun hresolve => ?_, ?_⟩
    · have hcontact : Builtin.named? "contact" = some .contact := by decide
      rw [hresolve, hcontact] at hnamed
      cases hnamed
    · dsimp only [unanswered]
      split <;> rfl
  | some b =>
    rw [Builtin.named?_eq_some.1 hnamed]
    by_cases hb : b = .contact
    · subst hb
      refine .inl ⟨rfl, ?_⟩
      dsimp only
      rw [Builtin.settled_contact, Registry.shown_data]
    · exact .inr ⟨fun hname => hb (b.name_contact.1 hname), Builtin.form?_settled s channel hb⟩

/-- With data that was decoded and an aware present, an invocation fails in three cases only: it
names no command, an unknown one, or a theme that does not exist. A command that is found runs
without a fault, and exactly the failures say what went wrong. -/
theorem execute_fails_iff (i : Invocation) (context : Context)
    (hnow : context.now.isAware = true)
    (hdata : ∀ p ∈ context.data, ∃ v source, Snapshot.ofDocument v source = .ok p) :
    ∃ result, (Service.standard s channel).registry.execute i context = .ok result ∧
      (result.output.success = false ↔ i.command = "" ∨
        (Service.standard s channel).registry.get? i.command = none ∨
        ((Service.standard s channel).registry.resolve i.command = "theme" ∧ NamesNoTheme i)) ∧
      (result.output.error = none ↔ result.output.success = true) ∧
      ∀ h, (Service.standard s channel).registry.get? i.command = some h →
        h.run i ((Service.standard s channel).registry.shown context) = .ok result := by
  have hd := Builtin.distinct_handlers s channel
  have hsound : ∀ p ∈ context.data, p.Sound := by
    intro p hp
    obtain ⟨v, source, hv⟩ := hdata p hp
    exact Snapshot.ofDocument_sound hv
  rw [Service.standard_eq]
  cases hget : (Registry.holding (Builtin.handlers s channel)).get? i.command with
  | none =>
    by_cases hempty : i.command = ""
    · exact ⟨_, Registry.execute_empty _ hempty, by simp [hempty, noCommand, Output.failure],
        by simp [noCommand, Output.failure], nofun⟩
    · exact ⟨_, Registry.execute_notFound hd hempty hget, by simp [notFound, Output.failure],
        by simp [notFound, Output.failure], nofun⟩
  | some h =>
    obtain ⟨hmem, hresolve⟩ := Registry.get?_eq_some hget
    obtain ⟨b, rfl⟩ := Builtin.eq_handler_of_mem s channel hmem
    -- no command answers to the empty text
    have hempty : i.command ≠ "" := by
      intro he
      rw [he, Registry.get?_holding_eq_none] at hget
      · cases hget
      · intro g hg
        have hlower : lower "" = "" := rfl
        simpa [Handler.answersTo, hlower] using Builtin.empty_notMem_keys s channel hg
    obtain ⟨result, hrun, hsuccess, herror⟩ := b.run_total s channel i
      ((Registry.holding (Builtin.handlers s channel)).shown context) hnow hsound
    refine ⟨result, Registry.execute_ok hd hempty hget hrun, ?_, herror, ?_⟩
    · rw [hsuccess, hresolve, Builtin.key_handler, Builtin.name_theme b b.mem_all]
      simp [hempty]
    · rintro _ ⟨⟩
      exact hrun

end Standard

def mixedContext (p : Snapshot) : Context :=
  ⟨.matrix, ["help"], some p, (Moment.midnight ⟨2024, 1, 1, by decide⟩).orUtc, []⟩

theorem execute_fails_iff_work :
    ∃ p, Snapshot.ofDocument Snapshot.mixedDocument none = .ok p ∧ p.experiences.length = 1 ∧
      ∃ result, (Service.standard {} none).registry.execute { command := "WORK" } (mixedContext p) =
          .ok result ∧ result.output.success = true ∧ result.output.error = none := by
  have hread : (Snapshot.ofDocument Snapshot.mixedDocument none).toOption.map
      (·.experiences.length) = some 1 := by
    decide +kernel
  have hname : (Service.standard {} none).registry.resolve "WORK" ≠ "theme" := by
    decide +kernel
  have hknown : ((Service.standard {} none).registry.get? "WORK").isSome = true := by
    decide +kernel
  obtain ⟨p, h, hlength⟩ := exists_of_toOption hread
  have hdata : ∀ q ∈ (mixedContext p).data, ∃ v source, Snapshot.ofDocument v source = .ok q := by
    rintro _ ⟨⟩
    exact ⟨Snapshot.mixedDocument, none, h⟩
  obtain ⟨result, hresult, hfails, herror, -⟩ :=
    execute_fails_iff {} none { command := "WORK" } (mixedContext p) rfl hdata
  have hsuccess : result.output.success = true := by
    rw [← Bool.not_eq_false, hfails]
    rintro (hempty | hnone | ⟨htheme, -⟩)
    · exact absurd hempty (by decide)
    · rw [hnone] at hknown
      cases hknown
    · exact hname htheme
  exact ⟨p, h, hlength, result, hresult, hsuccess, herror.2 hsuccess⟩

end Terminal

end Folio
