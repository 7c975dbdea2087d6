import Folio.Proofs.Program.Reading

namespace Folio.Program

open Folio.Contact Folio.Portfolio Folio.Terminal Folio.Text Folio.Time

def plainText : Option Output → String
  | none => ""
  | some o => if o.isClear then "" else o.text ++ "\n"

def exitCode : Option Output → Nat
  | none => 1
  | some o => if o.success then 0 else 1

theorem plainText_eq_empty {result : Option Output} :
    plainText result = "" ↔ ∀ o ∈ result, o.isClear = true := by
  cases result with
  | none => simp [plainText]
  | some o =>
    have hline : o.text ++ "\n" ≠ "" := by simp
    cases hclear : o.isClear <;> simp [plainText, hclear]

theorem exitCode_eq_zero {result : Option Output} :
    exitCode result = 0 ↔ ∃ o ∈ result, o.success = true := by
  cases result with
  | none => simp [exitCode]
  | some o => cases hsuccess : o.success <;> simp [exitCode, hsuccess]

theorem once_eq {s : Session} {line : String} {result : Option Output}
    (h : (s.submit line).1 = .ok result) :
    once s line = .ok (plainText result, exitCode result) := by
  rw [once, h]
  cases result <;> rfl

theorem Dialogue.shown_start {s : Session} {line : String} {result : Option Output}
    (h : (s.submit line).1 = .ok result) {colored : Bool} (hplain : colored = false)
    (prompt : String) : (start s prompt colored).shown line = plainText result := by
  rw [start, shown]
  dsimp only
  rcases hsubmit : s.submit line with ⟨answer, s'⟩
  rw [hsubmit] at h
  obtain rfl : answer = .ok result := h
  cases result with
  | none => rfl
  | some o => simp [plainText, rendered, hplain]

theorem leaves_line {line : String} : Leaves (.line line) ↔ lower (strip line) ∈ farewells := by
  rw [Leaves, isFarewell, List.contains_iff_mem]

section Standard

variable {settings : Settings} {channel : Option Channel}

theorem exists_result {s : Session} (hs : s.service = Service.standard settings channel)
    (line : String) :
    ∃ result, (s.submit line).1 = .ok result ∧ (result = none ↔ strip line = "") := by
  cases h : (strip line).isEmpty with
  | true =>
    rw [Session.submit_blank h]
    exact ⟨none, rfl, iff_of_true rfl (String.isEmpty_iff.1 h)⟩
  | false =>
    obtain ⟨r, -, hr⟩ := Session.submit_answered hs h
    rw [hr]
    refine ⟨some r.output, rfl, iff_of_false nofun fun hempty => ?_⟩
    rw [hempty] at h
    cases h

theorem exists_turn {d : Dialogue} (h : d.Waits (.standard settings channel)) {line : String}
    (hline : ¬ Leaves (.line line)) :
    ∃ after, d.step (.line line) = .ok ⟨after, d.shown line, none⟩ ∧ after.prompt?.isSome := by
  rw [Dialogue.step_line h.phase]
  obtain ⟨-, hturn⟩ | ⟨-, info, hturn⟩ := Dialogue.command_spec h hline
  · obtain ⟨prompt, hprompt⟩ := Dialogue.exists_prompt (h.entered line).phase
    exact ⟨d.entered line, hturn, by rw [hprompt]; rfl⟩
  · exact ⟨_, hturn, rfl⟩

theorem service_session (w : Surroundings) (settings : Settings) (data : Option Snapshot) :
    ∃ channel, (session w settings data).service = Service.standard settings channel := by
  simp only [session, Session.start, service]
  exact ⟨_, rfl⟩

theorem interact_cons {w : Surroundings} {s : Session} {prompt : String} {i : Input} {turn : Turn}
    (hprompt : (Dialogue.start s settings.terminal.prompt w.colored).prompt? = some prompt)
    (hstep : (Dialogue.start s settings.terminal.prompt w.colored).step i = .ok turn)
    (rest : List Input) :
    interact w settings s (i :: rest) = (turn.after.run rest).map (.after prompt turn) := by
  rw [interact, Dialogue.run, List.cons_append, Dialogue.play, hprompt, hstep]
  rfl

theorem exists_alone {w : Surroundings} {loaded : Loaded} {line : String} {result : Option Output}
    (h : ((session w settings loaded.data).submit line).1 = .ok result) (o : Options) :
    ∃ alone : Outcome, alone.code = exitCode result ∧ alone.written = plainText result ∧
      ∀ script, answer w { o with command := some line } settings loaded script = .ok alone := by
  refine ⟨{
    code := exitCode result
    written := plainText result
    notice := loaded.notice
    requests := ((Source.ofSettings? settings.source).map Source.requests).getD [] },
    rfl, rfl, fun script => ?_⟩
  simp only [answer, once_eq h, Except.map]

end Standard

/-- A line that is no farewell is answered alone as it is as the first of a dialogue: the same is
written before anything else is read, which is nothing when the line is blank or clears, and the
exit code is zero exactly when there is an output and it tells of success. -/
theorem answer_alone (w : Surroundings) (o : Options) (settings : Settings) (loaded : Loaded)
    (line : String) (hplain : w.colored = false) (hline : lower (strip line) ∉ farewells) :
    ∃ (result : Option Output) (alone : Outcome) (prompt : String) (after : Dialogue),
      let session := Program.session w settings loaded.data
      let first := Dialogue.start session settings.terminal.prompt w.colored
      (session.submit line).1 = .ok result ∧
      (result = none ↔ strip line = "") ∧
      (∀ script, answer w { o with command := some line } settings loaded script = .ok alone) ∧
      first.prompt? = some prompt ∧
      first.step (.line line) = .ok ⟨after, alone.written, none⟩ ∧
      after.prompt?.isSome ∧
      (∀ rest, interact w settings session (.line line :: rest) =
        (after.run rest).map (.after prompt ⟨after, alone.written, none⟩)) ∧
      (alone.written = "" ↔ strip line = "" ∨ ∃ out ∈ result, out.isClear = true) ∧
      (alone.code = 0 ↔ ∃ out ∈ result, out.success = true) := by
  obtain ⟨channel, hservice⟩ := service_session w settings loaded.data
  have hwaits := Dialogue.waits_of_service hservice settings.terminal.prompt w.colored
  obtain ⟨result, hresult, hblank⟩ := exists_result hservice line
  obtain ⟨prompt, hprompt⟩ := Dialogue.exists_prompt hwaits.phase
  obtain ⟨after, hstep, hnext⟩ := exists_turn hwaits (mt leaves_line.1 hline)
  obtain ⟨alone, hcode, hwritten, halone⟩ := exists_alone hresult o
  rw [Dialogue.shown_start hresult hplain, ← hwritten] at hstep
  refine ⟨result, alone, prompt, after, hresult, hblank, halone, hprompt, hstep, hnext,
    interact_cons hprompt hstep, ?_, ?_⟩
  · rw [hwritten, plainText_eq_empty, ← hblank]
    cases result <;> simp
  · rw [hcode, exitCode_eq_zero]

theorem answer_alone_contact : quiet.colored = false ∧ lower (strip " Contact ") ∉ farewells ∧
    ∃ alone after, answer quiet { command := some " Contact " } {} {} [] = .ok alone ∧
      (Dialogue.start (session quiet {} none) "❯ " false).step (.line " Contact ") =
        .ok ⟨after, alone.written, none⟩ ∧
      after.prompt? = some "Name: " ∧ alone.written ≠ "" ∧ alone.code = 0 := by
  have hline : lower (strip " Contact ") ∉ farewells := by decide +kernel
  obtain ⟨result, alone, prompt, after, -, -, halone, -, hstep, -⟩ :=
    answer_alone quiet {} {} {} " Contact " rfl hline
  have hanswer : (answer quiet { command := some " Contact " } {} {} []).toOption.map
      (fun alone => (alone.written.isEmpty, alone.code)) = some (false, 0) := by decide +kernel
  rw [halone []] at hanswer
  obtain ⟨hwritten, hcode⟩ : _ ∧ _ := by
    simpa only [Except.toOption, Option.map_some, Option.some.injEq, Prod.mk.injEq] using hanswer
  have hnext : ((Dialogue.start (session quiet {} none) "❯ " false).step
      (.line " Contact ")).toOption.bind (·.after.prompt?) = some "Name: " := by decide +kernel
  have hstep' : (Dialogue.start (session quiet {} none) "❯ " false).step (.line " Contact ") =
    .ok ⟨after, alone.written, none⟩ := hstep
  rw [hstep'] at hnext
  refine ⟨rfl, hline, alone, after, halone [], hstep', hnext, fun hempty => ?_, hcode⟩
  rw [hempty] at hwritten
  cases hwritten

end Folio.Program
