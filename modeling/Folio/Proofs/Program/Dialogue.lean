import Folio.Program.Run
import Folio.Proofs.Session

namespace Folio.Program

open Folio.Command Folio.Contact Folio.Portfolio Folio.Terminal Folio.Text Folio.Time

namespace Transcript

def append (t u : Transcript) : Transcript :=
  { last := u.last
    written := t.written ++ u.written
    prompts := t.prompts ++ u.prompts
    sent := t.sent ++ u.sent }

def ofTurn (prompt : String) (t : Turn) : Transcript :=
  { last := t.after, written := t.written, prompts := [prompt], sent := t.sent.toList }

theorem append_assoc (t u v : Transcript) : (t.append u).append v = t.append (u.append v) := by
  simp [append, String.append_assoc]

theorem nil_append (d : Dialogue) (t : Transcript) : append { last := d } t = t := by
  simp [append]

end Transcript

namespace Dialogue

variable {d : Dialogue} {i : Input} {turn : Turn} {prompt : String}

theorem play_cons (hprompt : d.prompt? = some prompt) (hstep : d.step i = .ok turn)
    (is : List Input) :
    d.play (i :: is) = (turn.after.play is).map (Transcript.ofTurn prompt turn).append := by
  rw [play, hprompt, hstep]
  rfl

theorem step_line (h : d.phase = .command) (line : String) :
    d.step (.line line) = d.command line := by
  obtain ⟨session, prompt, colored, phase⟩ := d
  cases h
  rfl

theorem step_interrupt (h : d.phase = .command) : d.step .interrupt = .ok ⟨d, "\n", none⟩ := by
  obtain ⟨session, prompt, colored, phase⟩ := d
  cases h
  rfl

theorem step_ending (h : d.phase = .command) :
    d.step .ending = .ok ⟨{ d with phase := .ended }, "\n", none⟩ := by
  obtain ⟨session, prompt, colored, phase⟩ := d
  cases h
  rfl

theorem answer_nil {form : ContactForm} {answers : List (Field × String)} {r : SubmitResult}
    (h : (form.submit (dataOf answers)).result = .ok r) : d.answer form answers [] =
      .ok ⟨{ d with phase := .command }, resultLine r, (form.submit (dataOf answers)).sent⟩ := by
  simp only [answer, h]

theorem exists_prompt (h : d.phase = .command) : ∃ prompt, d.prompt? = some prompt := by
  rw [prompt?, h]
  exact ⟨_, rfl⟩

theorem with_command (h : d.phase = .command) : { d with phase := .command } = d := by
  rw [← h]

theorem play_line (hprompt : d.prompt? = some prompt) (h : d.phase = .command) {line : String}
    (hturn : d.command line = .ok turn) (is : List Input) :
    d.play (.line line :: is) = (turn.after.play is).map (Transcript.ofTurn prompt turn).append :=
  play_cons hprompt ((step_line h line).trans hturn) is

theorem play_silent (h : d.prompt? = none) (is : List Input) : d.play is = .ok { last := d } := by
  cases is with
  | nil => rfl
  | cons i is => rw [play, h]

theorem play_append (d : Dialogue) (is js : List Input) :
    d.play (is ++ js) = (d.play is).bind fun t => (t.last.play js).map t.append := by
  induction is generalizing d with
  | nil =>
    have hnil : Transcript.append { last := d } = id := funext (Transcript.nil_append d)
    rw [List.nil_append, play, Except.bind, hnil, Except.map_id]
    rfl
  | cons i is ih =>
    cases hprompt : d.prompt? with
    | none =>
      rw [play_silent hprompt, play_silent hprompt, Except.bind, play_silent hprompt]
      rfl
    | some prompt =>
      cases hstep : d.step i with
      | error fault =>
        rw [List.cons_append, play, play, hprompt, hstep]
        rfl
      | ok turn =>
        rw [List.cons_append, play_cons hprompt hstep, play_cons hprompt hstep, ih]
        cases turn.after.play is with
        | error fault => rfl
        | ok t =>
          show ((t.last.play js).map t.append).map (Transcript.ofTurn prompt turn).append =
            (t.last.play js).map ((Transcript.ofTurn prompt turn).append t).append
          cases t.last.play js with
          | error fault => rfl
          | ok u => exact congrArg Except.ok (Transcript.append_assoc _ t u).symm

end Dialogue

def OpensForm (service : Service) (line : String) : Prop :=
  service.registry.resolve (Invocation.parse line).command = "contact"

def Leaves : Input → Prop
  | .line text => isFarewell text = true
  | .interrupt => False
  | .ending => True

def fieldPrompt (f : Field) : String := s!"{f.label}: "

def submission (service : Service) (data : FormData) : Submission :=
  ContactForm.submit ⟨service.channel, none⟩ data

namespace Dialogue

def entered (d : Dialogue) (line : String) : Dialogue :=
  { d with session := (d.session.submit line).2 }

theorem entered_phase (d : Dialogue) (line : String) : (d.entered line).phase = d.phase := by
  simp only [entered]

theorem entered_session (d : Dialogue) (line : String) :
    (d.entered line).session = d.session.step (.submit line) := by
  simp only [entered, Session.step]

def shown (d : Dialogue) (line : String) : String :=
  match d.session.submit line with
  | (.ok (some o), s) =>
    if o.isClear then (if d.colored then clearScreen else "")
    else rendered o s.theme d.colored ++ "\n"
  | _ => ""

structure Waits (service : Service) (d : Dialogue) : Prop where
  phase : d.phase = .command
  service : d.session.service = service

section Standard

variable {settings : Settings} {channel : Option Channel} {d : Dialogue} {line : String}

theorem not_opensForm_blank (h : (strip line).isEmpty = true) :
    ¬ OpensForm (.standard settings channel) line := by
  have hparse : (Invocation.parse line).command = "" := by
    rw [Invocation.parse, String.isEmpty_iff.1 h]
    rfl
  rw [OpensForm, hparse, resolve_empty]
  decide

theorem waits_of_service {s : Session} (hs : s.service = Service.standard settings channel)
    (prompt : String) (colored : Bool) :
    (start s prompt colored).Waits (.standard settings channel) where
  phase := by rw [start]
  service := by rw [start, hs]

theorem waits_start (settings : Settings) (channel : Option Channel) (data : Option Snapshot)
    (theme : Theme) (now : Moment) (prompt : String) (colored : Bool) :
    (start (.opened settings channel data theme now) prompt colored).Waits
      (.standard settings channel) :=
  waits_of_service (by rw [Session.opened]) prompt colored

theorem Waits.entered (h : d.Waits (.standard settings channel)) (line : String) :
    (d.entered line).Waits (.standard settings channel) where
  phase := (entered_phase d line).trans h.phase
  service := by
    rw [entered_session, (Session.step_spec h.service (.submit line)).1, h.service]

theorem command_spec (h : d.Waits (.standard settings channel)) (hline : ¬ Leaves (.line line)) :
    (¬ OpensForm (.standard settings channel) line ∧
        d.command line = .ok ⟨d.entered line, d.shown line, none⟩) ∨
      (OpensForm (.standard settings channel) line ∧ ∃ info,
        d.command line = .ok ⟨{ d.entered line with phase := .asking (some ⟨channel, info⟩) },
          d.shown line, none⟩) := by
  obtain ⟨session, prompt, colored, phase⟩ := d
  obtain ⟨rfl, hservice⟩ := h
  dsimp only at hservice
  have hfarewell : ¬ isFarewell line = true := hline
  rw [command, if_neg hfarewell, entered, shown]
  dsimp only
  cases hblank : (strip line).isEmpty with
  | true =>
    rw [Session.submit_blank hblank]
    exact .inl ⟨not_opensForm_blank hblank, rfl⟩
  | false =>
    obtain ⟨r, hexecute, hsubmit⟩ := Session.submit_answered hservice hblank
    rw [hservice] at hexecute
    rw [hsubmit]
    have hparse : Invocation.parse (strip line) = Invocation.parse line := by
      rw [Invocation.parse, strip_strip, ← Invocation.parse]
    obtain ⟨hcontact, houtput⟩ | ⟨hother, hform⟩ := execute_form settings channel hexecute
    · rw [hparse] at hcontact
      refine .inr ⟨hcontact, session.data.map (·.contactInfo), ?_⟩
      simp only [houtput]
      rfl
    · rw [hparse] at hother
      refine .inl ⟨hother, ?_⟩
      dsimp only
      cases r.output.isClear with
      | true => rfl
      | false =>
        rw [hform]
        rfl

end Standard

end Dialogue

/-- Inputs from one command prompt to the next. -/
inductive Round where
  | interrupted
  | plain (line : String)
  | filled (line : String) (data : FormData)
  | cancelled (line : String) (answers : List String) (cut : Input)

namespace Round

def inputs : Round → List Input
  | interrupted => [.interrupt]
  | plain line => [.line line]
  | filled line data => [.line line, .line data.name, .line data.email, .line data.message]
  | cancelled line answers cut => .line line :: (answers.map .line ++ [cut])

def line? : Round → Option String
  | interrupted => none
  | plain line => some line
  | filled line _ => some line
  | cancelled line _ _ => some line

def data? : Round → Option FormData
  | filled _ data => some data
  | _ => none

/-- No round leaves the dialogue at its prompt. Answers follow a line exactly when it opens a form;
a form that is cut off has fewer answers than fields, and no line cuts it off. -/
def Fits (service : Service) : Round → Prop
  | interrupted => True
  | plain line => ¬ Leaves (.line line) ∧ ¬ OpensForm service line
  | filled line _ => ¬ Leaves (.line line) ∧ OpensForm service line
  | cancelled line answers cut => ¬ Leaves (.line line) ∧ OpensForm service line ∧
      answers.length < Field.all.length ∧ ∀ text, cut ≠ .line text

def after (d : Dialogue) (r : Round) : Dialogue :=
  (r.line?.map d.entered).getD d

def closing (service : Service) : Round → String
  | filled _ data => ((submission service data).result.toOption.map resultLine).getD ""
  | cancelled .. => Program.cancelled
  | _ => ""

/-- What a round comes to: each input has its prompt, the command is shown its answer, and a form
that was filled in is submitted once. -/
def transcript (d : Dialogue) (r : Round) : Transcript :=
  { last := r.after d
    written := (r.line?.map d.shown).getD "\n" ++ r.closing d.session.service
    prompts := d.prompt?.toList ++ (Field.all.map fieldPrompt).take (r.inputs.length - 1)
    sent := (r.data?.bind fun data => (submission d.session.service data).sent).toList }

theorem play_cut {cut : Input} (hcut : ∀ text, cut ≠ .line text) (d : Dialogue)
    (form : ContactForm) (given : List (Field × String)) (next : Field) (later : List Field)
    (answers : List String) (hlength : answers.length ≤ later.length) :
    ({ d with phase := .filling form given next later } : Dialogue).play
        (answers.map .line ++ [cut]) =
      .ok { last := { d with phase := .command }
            written := Program.cancelled
            prompts := ((next :: later).map fieldPrompt).take (answers.length + 1) } := by
  induction answers generalizing given next later with
  | nil =>
    cases cut with
    | line text => exact absurd rfl (hcut text)
    | interrupt => rfl
    | ending => rfl
  | cons a answers ih =>
    cases later with
    | nil => cases hlength
    | cons f later =>
      have hstep : ({ d with phase := .filling form given next (f :: later) } : Dialogue).step
          (.line a) =
            .ok ⟨{ d with phase := .filling form (given ++ [(next, a)]) f later }, "", none⟩ := rfl
      rw [List.map_cons, List.cons_append, Dialogue.play_cons rfl hstep,
        ih _ f later (Nat.le_of_succ_le_succ hlength)]
      rfl

theorem play_answers (d : Dialogue) (form : ContactForm) (data : FormData) {r : SubmitResult}
    (h : (form.submit data).result = .ok r) :
    ({ d with phase := .asking (some form) } : Dialogue).play
        [.line data.name, .line data.email, .line data.message] =
      .ok { last := { d with phase := .command }
            written := resultLine r
            prompts := Field.all.map fieldPrompt
            sent := (form.submit data).sent.toList } := by
  let filling := Phase.filling form [(.name, data.name), (.email, data.email)] .message []
  have hlast : ({ d with phase := filling } : Dialogue).step (.line data.message) =
      .ok ⟨{ d with phase := .command }, resultLine r, (form.submit data).sent⟩ := by
    have hdata : dataOf [(.name, data.name), (.email, data.email), (.message, data.message)] =
      data := rfl
    exact Dialogue.answer_nil (hdata ▸ h)
  have hfirst : ({ d with phase := .asking (some form) } : Dialogue).step (.line data.name) =
        .ok ⟨{ d with phase := .filling form [(.name, data.name)] .email [.message] }, "", none⟩ :=
    rfl
  have hsecond : ({ d with phase := .filling form [(.name, data.name)] .email [.message] } :
      Dialogue).step (.line data.email) = .ok ⟨{ d with phase := filling }, "", none⟩ := rfl
  rw [Dialogue.play_cons rfl hfirst, Dialogue.play_cons rfl hsecond, Dialogue.play_cons rfl hlast]
  simp [Dialogue.play, Except.map, Transcript.append, Transcript.ofTurn, Field.all, fieldPrompt]

section Standard

variable {settings : Settings} {channel : Option Channel} {d : Dialogue}

theorem waits_after (h : d.Waits (.standard settings channel)) (r : Round) :
    (r.after d).Waits (.standard settings channel) := by
  cases r with
  | interrupted => exact h
  | plain line => exact h.entered line
  | filled line data => exact h.entered line
  | cancelled line answers cut => exact h.entered line

theorem submit_eq_submission (settings : Settings) (channel : Option Channel)
    (info : Option ContactInfo) (data : FormData) :
    ContactForm.submit ⟨channel, info⟩ data = submission (.standard settings channel) data := by
  rw [submission, Service.standard_eq]
  rfl

theorem submission_total (settings : Settings)
    (hchannel : ∀ deliver ∈ channel, ∀ data, ∃ r, deliver data = .ok r) (data : FormData) :
    ∃ r, (submission (.standard settings channel) data).result = .ok r := by
  rw [← submit_eq_submission settings channel none, ContactForm.submit]
  split
  · exact ⟨_, rfl⟩
  · split
    · exact ⟨_, rfl⟩
    next deliver hdeliver => exact hchannel deliver hdeliver data

theorem sent_submission (data : FormData) : (submission (.standard settings channel) data).sent =
    if channel.isSome && data.problems.isEmpty then some data else none := by
  rw [← submit_eq_submission settings channel none, ContactForm.submit]
  cases data.problems with
  | cons p ps => simp
  | nil => cases channel <;> simp

theorem play_inputs (h : d.Waits (.standard settings channel))
    (hchannel : ∀ deliver ∈ channel, ∀ data, ∃ r, deliver data = .ok r) {r : Round}
    (hfits : r.Fits (.standard settings channel)) : d.play r.inputs = .ok (r.transcript d) := by
  obtain ⟨prompt, hprompt⟩ := Dialogue.exists_prompt h.phase
  cases r with
  | interrupted =>
    rw [inputs, Dialogue.play_cons hprompt (Dialogue.step_interrupt h.phase), transcript, hprompt]
    rfl
  | plain line =>
    obtain ⟨hleaves, hopens⟩ := hfits
    obtain ⟨-, hturn⟩ | ⟨hform, -⟩ := Dialogue.command_spec h hleaves
    · rw [inputs, Dialogue.play_line hprompt h.phase hturn, transcript, hprompt]
      simp [Dialogue.play, Except.map, Transcript.append, Transcript.ofTurn, inputs, after, line?,
        data?, closing]
    · exact absurd hform hopens
  | filled line data =>
    obtain ⟨hleaves, hopens⟩ := hfits
    obtain ⟨hform, -⟩ | ⟨-, info, hturn⟩ := Dialogue.command_spec h hleaves
    · exact absurd hopens hform
    · obtain ⟨result, hresult⟩ := submission_total settings hchannel data
      have hsubmit := submit_eq_submission settings channel info data
      rw [inputs, Dialogue.play_line hprompt h.phase hturn,
        play_answers (d.entered line) ⟨channel, info⟩ data (by rw [hsubmit, hresult]), transcript,
        hprompt, closing, h.service, hresult, hsubmit, Dialogue.with_command (h.entered line).phase]
      simp [Except.map, Except.toOption, Transcript.append, Transcript.ofTurn, inputs, after, line?,
        data?, Field.all]
  | cancelled line answers cut =>
    obtain ⟨hleaves, hopens, hlength, hcut⟩ := hfits
    obtain ⟨hform, -⟩ | ⟨-, info, hturn⟩ := Dialogue.command_spec h hleaves
    · exact absurd hopens hform
    · rw [inputs, Dialogue.play_line hprompt h.phase hturn]
      have hplay := play_cut hcut (d.entered line) ⟨channel, info⟩ [] .name [.email, .message]
        answers (Nat.le_of_lt_succ hlength)
      -- The form starts at its first field, with no answers.
      have hphase : Phase.asking (some ⟨channel, info⟩) =
        .filling ⟨channel, info⟩ [] .name [.email, .message] := rfl
      rw [hphase, hplay, transcript, hprompt, Dialogue.with_command (h.entered line).phase]
      simp [Except.map, Transcript.append, Transcript.ofTurn, inputs, after, line?, data?, closing,
        Field.all]

end Standard

def transcripts (d : Dialogue) : List Round → Transcript
  | [] => { last := d }
  | r :: rs => (r.transcript d).append (transcripts (r.after d) rs)

section Standard

variable {settings : Settings} {channel : Option Channel} {d : Dialogue}

theorem play_rounds (h : d.Waits (.standard settings channel))
    (hchannel : ∀ deliver ∈ channel, ∀ data, ∃ r, deliver data = .ok r) {rs : List Round}
    (hfits : ∀ r ∈ rs, r.Fits (.standard settings channel)) :
    d.play (rs.flatMap inputs) = .ok (transcripts d rs) ∧
      (transcripts d rs).last.Waits (.standard settings channel) := by
  induction rs generalizing d with
  | nil => exact ⟨rfl, h⟩
  | cons r rs ih =>
    obtain ⟨hr, hrs⟩ := List.forall_mem_cons.1 hfits
    obtain ⟨hplay, hwaits⟩ := ih (waits_after h r) hrs
    refine ⟨?_, hwaits⟩
    rw [List.flatMap_cons, Dialogue.play_append, play_inputs h hchannel hr]
    show ((r.after d).play (rs.flatMap inputs)).map (r.transcript d).append = _
    rw [hplay]
    rfl

theorem length_prompts (h : d.Waits (.standard settings channel)) {rs : List Round}
    (hfits : ∀ r ∈ rs, r.Fits (.standard settings channel)) :
    (transcripts d rs).prompts.length = (rs.flatMap inputs).length := by
  induction rs generalizing d with
  | nil => rfl
  | cons r rs ih =>
    obtain ⟨hr, hrs⟩ := List.forall_mem_cons.1 hfits
    obtain ⟨prompt, hprompt⟩ := Dialogue.exists_prompt h.phase
    have hround : (r.transcript d).prompts.length = r.inputs.length := by
      rw [transcript, hprompt]
      cases r with
      | cancelled line answers cut =>
        have hlength : answers.length < Field.all.length := hr.2.2.1
        simp [inputs]
        omega
      | _ => rfl
    rw [transcripts, Transcript.append, List.length_append, hround, ih (waits_after h r) hrs,
      List.flatMap_cons, List.length_append]

theorem history_transcripts (h : d.Waits (.standard settings channel)) (rs : List Round) :
    (transcripts d rs).last.session.history = d.session.history ++
      (rs.filterMap line?).filterMap fun line => Session.Op.entry? (.submit line) := by
  induction rs generalizing d with
  | nil => exact (List.append_nil _).symm
  | cons r rs ih =>
    have hround : (r.after d).session.history = d.session.history ++
        (r.line?.bind fun line => Session.Op.entry? (.submit line)).toList := by
      rw [after]
      cases r.line? with
      | none => exact (List.append_nil _).symm
      | some line =>
        rw [Option.map_some, Option.getD_some, Dialogue.entered_session,
          (Session.step_spec h.service (.submit line)).2.1, Option.bind_some]
    have hlast : (transcripts d (r :: rs)).last = (transcripts (r.after d) rs).last := rfl
    rw [hlast, ih (waits_after h r), hround, List.append_assoc]
    cases hline : r.line? with
    | none => simp [hline]
    | some line => cases hentry : Session.Op.entry? (.submit line) <;> simp [hline, hentry]

theorem sent_transcripts (h : d.Waits (.standard settings channel)) (rs : List Round) :
    (transcripts d rs).sent =
      if channel.isSome then (rs.filterMap data?).filter (·.problems.isEmpty) else [] := by
  induction rs generalizing d with
  | nil => simp [transcripts]
  | cons r rs ih =>
    have hround : (transcripts d (r :: rs)).sent =
      (r.transcript d).sent ++ (transcripts (r.after d) rs).sent := rfl
    rw [hround, ih (waits_after h r), transcript, h.service]
    cases hdata : r.data? with
    | none => simp [hdata]
    | some data =>
      dsimp only
      rw [Option.bind_some, sent_submission]
      cases hproblems : data.problems.isEmpty <;> cases channel <;> simp [hdata, hproblems]

end Standard

end Round

end Folio.Program
