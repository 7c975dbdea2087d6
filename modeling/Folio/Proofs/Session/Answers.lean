import Folio.Proofs.Session
import Folio.Proofs.Settings.Valid
import Folio.Proofs.Terminal.Answer

namespace Folio.Session

open Folio.Command Folio.Contact Folio.Document Folio.Portfolio Folio.Terminal Folio.Text Folio.Time

def lastRequested? (r : Registry) (lines : List String) : Option Theme :=
  lines.reverse.findSome? fun line => requested? r (Invocation.parse line)

theorem lastRequested?_append (r : Registry) (lines more : List String) :
    lastRequested? r (lines ++ more) = (lastRequested? r more).or (lastRequested? r lines) := by
  simp [lastRequested?, List.findSome?_append]

def answers (s : Session) : List String → List (Except Fault (Option Output))
  | [] => []
  | line :: lines => (s.submit line).1 :: answers (s.submit line).2 lines

theorem context_theme (s : Session) (line : String) :
    (s.entered line).context.theme = s.theme := rfl

theorem context_data (s : Session) (line : String) :
    (s.entered line).context.data = s.data := rfl

theorem context_now (s : Session) (line : String) : (s.entered line).context.now = s.now := rfl

section Standard

variable {settings : Settings} {channel : Option Channel} {s s' : Session}

theorem submit_keeps (hs : s.service = Service.standard settings channel) (line : String) :
    (s.submit line).2.service = s.service ∧ (s.submit line).2.data = s.data ∧
      (s.submit line).2.now = s.now := by
  cases h : (strip line).isEmpty with
  | true =>
    rw [submit_blank h]
    exact ⟨rfl, rfl, rfl⟩
  | false =>
    obtain ⟨r, -, hr⟩ := submit_answered hs h
    obtain ⟨log, hlog⟩ := (s.entered (strip line)).exists_answered r
    rw [hr, hlog]
    exact ⟨rfl, rfl, rfl⟩

theorem step_theme (hs : s.service = Service.standard settings channel) (op : Op) :
    (s.step op).theme =
      (lastRequested? s.service.registry op.entry?.toList).getD s.theme := by
  cases op with
  | submit line =>
    cases h : (strip line).isEmpty with
    | true => simp [step, submit_blank h, Op.entry?, h, lastRequested?]
    | false =>
      obtain ⟨r, hexec, hr⟩ := submit_answered hs h
      obtain ⟨log, hlog⟩ := (s.entered (strip line)).exists_answered r
      rw [hs] at hexec ⊢
      have htheme := execute_theme settings channel hexec
      rw [context_theme] at htheme
      rw [step, hr, hlog]
      simpa [Op.entry?, h, lastRequested?] using htheme
  | navigate d =>
    obtain ⟨shown, place, h⟩ := s.exists_navigate d
    rw [step, h]
    rfl
  | complete typed => rfl
  | clear => rfl
  | replaceData data => rfl
  | tick now => rfl

theorem run_theme (hs : s.service = Service.standard settings channel) (ops : List Op) :
    (s.run ops).service = s.service ∧ (s.run ops).theme =
      (lastRequested? s.service.registry (ops.filterMap Op.entry?)).getD s.theme := by
  induction ops using List.reverseRecOn with
  | nil => exact ⟨rfl, rfl⟩
  | append_singleton ops op ih =>
    obtain ⟨hservice, htheme⟩ := ih
    obtain ⟨hkept, -⟩ := step_spec (hservice.trans hs) op
    refine ⟨by rw [run_concat, hkept, hservice], ?_⟩
    rw [run_concat, step_theme (hservice.trans hs), htheme, hservice, List.filterMap_append,
      lastRequested?_append]
    have hlast : [op].filterMap Op.entry? = op.entry?.toList := by
      cases h : op.entry? <;> simp [h]
    rw [hlast]
    cases lastRequested? s.service.registry op.entry?.toList <;> rfl

theorem submit_alike (hs : s.service = Service.standard settings channel)
    (hservice : s'.service = s.service) (hdata : s.data = s'.data) (hnow : s.now = s'.now)
    {line : String} (hline : ¬ LooksBack s.service.registry (Invocation.parse line)) :
    ∃ answer, (s.submit line).1 = .ok answer ∧ (s'.submit line).1 = .ok answer := by
  have hs' := hservice.trans hs
  cases h : (strip line).isEmpty with
  | true =>
    rw [submit_blank h, submit_blank h]
    exact ⟨none, rfl, rfl⟩
  | false =>
    obtain ⟨r, hexec, hr⟩ := submit_answered hs h
    obtain ⟨r', hexec', hr'⟩ := submit_answered hs' h
    rw [hs] at hexec hline
    rw [hs'] at hexec'
    have hstripped : Invocation.parse (strip line) = Invocation.parse line := by
      rw [Invocation.parse, strip_strip, ← Invocation.parse]
    rw [← hstripped] at hline
    rw [← context_data s (strip line), ← context_data s' (strip line)] at hdata
    rw [← context_now s (strip line), ← context_now s' (strip line)] at hnow
    have hsame := execute_alike settings channel hline hdata hnow hexec hexec'
    exact ⟨some r.output, by rw [hr], by rw [hr', hsame]⟩

theorem answers_eq_map (hs : s.service = Service.standard settings channel)
    (hservice : s'.service = s.service) (hdata : s.data = s'.data) (hnow : s.now = s'.now)
    {lines : List String}
    (hlines : ∀ line ∈ lines, ¬ LooksBack s.service.registry (Invocation.parse line)) :
    s.answers lines = lines.map fun line => (s'.submit line).1 := by
  induction lines generalizing s with
  | nil => rfl
  | cons line lines ih =>
    obtain ⟨hline, hrest⟩ := List.forall_mem_cons.1 hlines
    obtain ⟨answer, h, h'⟩ := submit_alike hs hservice hdata hnow hline
    obtain ⟨hservice₂, hdata₂, hnow₂⟩ := submit_keeps hs line
    rw [← hservice₂] at hrest
    have htail := ih (hservice₂.trans hs) (hservice.trans hservice₂.symm) (hdata₂.trans hdata)
      (hnow₂.trans hnow) hrest
    rw [answers, htail, List.map_cons, h, h']

end Standard

theorem launch_configured (service : Service) (data : Option Snapshot) (now : Moment) :
    launch service data none now = .ok (start service data now) := by
  simp only [launch, Theme.initial, Theme.named?_name]
  rfl

/-- A session launched on no theme of its own starts on the configured one, under whatever spelling
that was configured. After any operations it is on the theme that the last of the entered lines to
ask for one asked for, and on the configured one when none did; any other line leaves it. -/
theorem launch_run_theme (settings : Settings) (channel : Option Channel) (data : Option Snapshot)
    (now : Moment) :
    (∀ o name, Settings.ofFields o = .ok settings →
      o.at? (some "terminal") "default_theme" = some (.text name) →
        settings.terminal.theme.name = lower (strip name)) ∧
    ∃ s, launch (Service.standard settings channel) data none now = .ok s ∧
      s.theme = settings.terminal.theme ∧
      ∀ ops, (s.run ops).theme =
          (lastRequested? (Service.standard settings channel).registry
            (ops.filterMap Op.entry?)).getD settings.terminal.theme ∧
        (∀ op, ((s.run ops).step op).theme =
          (lastRequested? (Service.standard settings channel).registry
            op.entry?.toList).getD (s.run ops).theme) ∧
        (s.run ops).theme ∈ Theme.all := by
  refine ⟨?_, ?_⟩
  · intro o name hdecode hgiven
    have hfound := Settings.found_of_ofFields hdecode
    simp only [Setting.all, List.forall_mem_cons, hgiven] at hfound
    obtain ⟨-, -, -, htheme, -⟩ := hfound
    exact themeName_eq_ok htheme
  · have htheme : (Service.standard settings channel).settings = settings := by
      rw [Service.standard_eq]
    generalize hservice : Service.standard settings channel = service at htheme ⊢
    have hs : (start service data now).service = Service.standard settings channel := hservice.symm
    refine ⟨_, launch_configured service data now, by rw [start, htheme], fun ops => ?_⟩
    obtain ⟨hkept, hrun⟩ := run_theme hs ops
    refine ⟨?_, fun op => ?_, Theme.mem_all _⟩
    · rw [hrun, start, htheme]
    · rw [step_theme (hkept.trans hs), hkept, start]

theorem launch_run_theme_spelled : ∃ s,
    Settings.ofFields [("terminal", .record [("default_theme", .text " MATRIX ")])] =
      .ok { terminal := { theme := .matrix } } ∧
    Theme.matrix.name = lower (strip " MATRIX ") ∧
    launch (Service.standard { terminal := { theme := .matrix } } none) none none
      (Moment.midnight ⟨2024, 1, 1, by decide⟩) = .ok s ∧ s.theme = .matrix ∧
    (s.run [.submit "colors --list dracula", .submit "theme nosuch"]).theme = .matrix ∧
    (s.run [.submit "COLORS \" Dracula \" x", .submit "theme nosuch", .submit "theme"]).theme =
      .dracula := by
  obtain ⟨hname, s, hlaunch, hinitial, hrun⟩ := launch_run_theme
    { terminal := { theme := .matrix } } none none (Moment.midnight ⟨2024, 1, 1, by decide⟩)
  have hread : Settings.ofFields [("terminal", .record [("default_theme", .text " MATRIX ")])] =
      .ok { terminal := { theme := .matrix } } := rfl
  refine ⟨s, hread, hname _ _ hread rfl, hlaunch, hinitial, ?_, ?_⟩
  · rw [(hrun _).1]
    decide +kernel
  · rw [(hrun _).1]
    decide +kernel

/-- Two sessions over the same service, data and present answer every line that does not look back
alike, whatever was entered in either before, and so do they answer such lines in any order. -/
theorem answers_alike {settings : Settings} {channel : Option Channel} {s s' : Session}
    (hs : s.service = Service.standard settings channel) (hservice : s'.service = s.service)
    (hdata : s'.data = s.data) (hnow : s'.now = s.now) :
    ∃ answer : String → Option Output,
      (∀ line, ¬ LooksBack s.service.registry (Invocation.parse line) →
        (s.submit line).1 = .ok (answer line) ∧ (s'.submit line).1 = .ok (answer line)) ∧
      ∀ lines, (∀ line ∈ lines, ¬ LooksBack s.service.registry (Invocation.parse line)) →
        s.answers lines = lines.map (fun line => .ok (answer line)) ∧
        s'.answers lines = lines.map fun line => .ok (answer line) := by
  have halone : ∀ line, ¬ LooksBack s.service.registry (Invocation.parse line) →
      (s.submit line).1 = .ok (s.submit line).1.toOption.join ∧
        (s'.submit line).1 = .ok (s.submit line).1.toOption.join := by
    intro line hline
    obtain ⟨answer, h, h'⟩ := submit_alike hs hservice hdata.symm hnow.symm hline
    rw [h, h']
    exact ⟨rfl, rfl⟩
  refine ⟨_, halone, fun lines hlines => ⟨?_, ?_⟩⟩
  · rw [answers_eq_map hs rfl rfl rfl hlines]
    exact List.map_congr_left fun line hline => (halone line (hlines line hline)).1
  · have hlines' := hlines
    rw [← hservice] at hlines'
    rw [answers_eq_map (hservice.trans hs) hservice.symm hdata hnow hlines']
    exact List.map_congr_left fun line hline => (halone line (hlines line hline)).1

theorem answers_alike_changed :
    ∃ s s' : Session, s = opened {} none none .standard (Moment.midnight ⟨2024, 1, 1, by decide⟩) ∧
      s' = (s.submit "theme matrix").2 ∧ s'.theme = .matrix ∧ s'.history = ["theme matrix"] ∧
      s.answers ["skils", "theme dracula", "HELP"] =
        s'.answers ["skils", "theme dracula", "HELP"] ∧
      (s'.answers ["HELP", "theme dracula", "skils"]).reverse =
        s.answers ["skils", "theme dracula", "HELP"] := by
  have hs : (opened {} none none .standard (Moment.midnight ⟨2024, 1, 1, by decide⟩)).service =
      Service.standard {} none := rfl
  have hlines : ∀ line ∈ ["skils", "theme dracula", "HELP"],
      ¬ LooksBack (Service.standard {} none).registry (Invocation.parse line) := by
    decide +kernel
  obtain ⟨hservice, hdata, hnow⟩ := submit_keeps hs "theme matrix"
  obtain ⟨answer, -, hanswers⟩ := answers_alike hs hservice hdata hnow
  rw [← hs] at hlines
  obtain ⟨h, h'⟩ := hanswers ["skils", "theme dracula", "HELP"] hlines
  obtain ⟨-, hreversed⟩ := hanswers ["HELP", "theme dracula", "skils"] fun line hline =>
    hlines line (List.mem_reverse.1 hline)
  refine ⟨_, _, rfl, rfl, ?_, ?_, ?_, ?_⟩
  · decide +kernel
  · decide +kernel
  · rw [h, h']
  · rw [h, hreversed]
    rfl

end Folio.Session
