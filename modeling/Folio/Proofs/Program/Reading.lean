import Folio.Proofs.Program.Dialogue
/-!
Scripts taken apart into the rounds of a dialogue and the input that ends it, in the one way there
is, and what the dialogue makes of them.
-/

namespace Folio.Program

open Folio.Command Folio.Contact Folio.Portfolio Folio.Terminal Folio.Text Folio.Time

def leaving (d : Dialogue) (last : Input) : Transcript :=
  { last := { d with phase := .ended }
    written := if last = .ending then "\n" else ""
    prompts := d.prompt?.toList }

theorem play_leaving {d : Dialogue} (h : d.phase = .command) {last : Input} (hlast : Leaves last)
    (unread : List Input) : d.play (last :: unread) = .ok (leaving d last) := by
  obtain ⟨prompt, hprompt⟩ := Dialogue.exists_prompt h
  rw [leaving, hprompt]
  cases last with
  | line text =>
    have hturn : d.command text = .ok ⟨{ d with phase := .ended }, "", none⟩ := if_pos hlast
    rw [Dialogue.play_line hprompt h hturn, Dialogue.play_silent rfl]
    simp [Except.map, Transcript.append, Transcript.ofTurn]
  | interrupt => cases hlast
  | ending =>
    rw [Dialogue.play_cons hprompt (Dialogue.step_ending h), Dialogue.play_silent rfl]
    simp [Except.map, Transcript.append, Transcript.ofTurn]

theorem exists_answers (n : Nat) (is : List Input) :
    (∃ (answers : List String) (rest : List Input),
        answers.length = n ∧ is = answers.map .line ++ rest) ∨
      (∃ (answers : List String) (cut : Input) (rest : List Input), answers.length < n ∧
        (∀ text, cut ≠ .line text) ∧ is = answers.map .line ++ cut :: rest) ∨
      ∃ answers : List String, answers.length < n ∧ is = answers.map .line := by
  induction n generalizing is with
  | zero => exact .inl ⟨[], is, rfl, rfl⟩
  | succ n ih =>
    cases is with
    | nil => exact .inr (.inr ⟨[], Nat.zero_lt_succ n, rfl⟩)
    | cons i is =>
      cases i with
      | line text =>
        obtain ⟨as, rest, hlength, rfl⟩ | ⟨as, cut, rest, hlength, hcut, rfl⟩ |
          ⟨as, hlength, rfl⟩ := ih is
        · exact .inl ⟨text :: as, rest, congrArg (· + 1) hlength, rfl⟩
        · exact .inr (.inl ⟨text :: as, cut, rest, Nat.succ_lt_succ hlength, hcut, rfl⟩)
        · exact .inr (.inr ⟨text :: as, Nat.succ_lt_succ hlength, rfl⟩)
      | interrupt => exact .inr (.inl ⟨[], .interrupt, is, Nat.zero_lt_succ n, nofun, rfl⟩)
      | ending => exact .inr (.inl ⟨[], .ending, is, Nat.zero_lt_succ n, nofun, rfl⟩)

/-- A script, with the end of input after it, taken apart into rounds and an input that ends the
dialogue. What is left is never read. -/
structure Reading (service : Service) (script : List Input) where
  rounds : List Round
  last : Input
  unread : List Input
  split : script ++ [.ending, .ending] = rounds.flatMap Round.inputs ++ last :: unread
  fits : ∀ r ∈ rounds, r.Fits service
  leaves : Leaves last

namespace Reading

variable {service : Service} {script : List Input}

def read (reading : Reading service script) : List Input :=
  reading.rounds.flatMap Round.inputs ++ [reading.last]

def lines (reading : Reading service script) : List String :=
  reading.rounds.filterMap Round.line?

def filled (reading : Reading service script) : List FormData :=
  reading.rounds.filterMap Round.data?

def transcript (reading : Reading service script) (d : Dialogue) : Transcript :=
  let t := Round.transcripts d reading.rounds
  t.append (leaving t.last reading.last)

end Reading

theorem exists_reading (service : Service) (script : List Input) :
    Nonempty (Reading service script) := by
  -- on the length, since a form takes several inputs at once
  induction hn : script.length using Nat.strong_induction_on generalizing script with
  | h n ih =>
    have hafter (r : Round) (rest : List Input) (hfits : r.Fits service)
        (hscript : script = r.inputs ++ rest) (hlt : rest.length < n) :
        Nonempty (Reading service script) := by
      obtain ⟨⟨rounds, last, unread, hrest, hrounds, hlast⟩⟩ := ih rest.length hlt rest rfl
      refine ⟨r :: rounds, last, unread, ?_, List.forall_mem_cons.2 ⟨hfits, hrounds⟩, hlast⟩
      rw [hscript, List.append_assoc, hrest, List.flatMap_cons, List.append_assoc]
    cases script with
    | nil => exact ⟨[], .ending, [.ending], rfl, List.forall_mem_nil _, trivial⟩
    | cons i is =>
      subst hn
      cases i with
      | ending =>
        exact ⟨[], .ending, is ++ [.ending, .ending], rfl, List.forall_mem_nil _, trivial⟩
      | interrupt => exact hafter .interrupted is trivial rfl (Nat.lt_succ_self _)
      | line text =>
        by_cases hleaves : Leaves (.line text)
        · exact ⟨[], .line text, is ++ [.ending, .ending], rfl, List.forall_mem_nil _, hleaves⟩
        by_cases hopens : OpensForm service text
        · obtain ⟨as, rest, hlength, rfl⟩ | ⟨as, cut, rest, hlength, hcut, rfl⟩ |
            ⟨as, hlength, rfl⟩ := exists_answers Field.all.length is
          · obtain ⟨name, email, message, rfl⟩ := List.length_eq_three.1 hlength
            refine hafter (.filled text ⟨name, email, message⟩) rest ⟨hleaves, hopens⟩ rfl ?_
            simp
            omega
          · refine hafter (.cancelled text as cut) rest ⟨hleaves, hopens, hlength, hcut⟩ ?_ ?_
            · simp [Round.inputs]
            · simp
              omega
          · -- The script is over before the form is, and one end of input cuts the form off.
            refine ⟨[.cancelled text as .ending], .ending, [], ?_, ?_, trivial⟩
            · simp [Round.inputs]
            · simpa [Round.Fits] using ⟨hleaves, hopens, hlength⟩
        · exact hafter (.plain text) is ⟨hleaves, hopens⟩ rfl (Nat.lt_succ_self _)

section Unique

variable {service : Service} {cut cut' : Input} {is is' : List Input} {as as' : List String}

theorem answers_inj (hcut : ∀ text, cut ≠ .line text) (hcut' : ∀ text, cut' ≠ .line text)
    (h : as.map .line ++ cut :: is = as'.map .line ++ cut' :: is') :
    as = as' ∧ cut = cut' ∧ is = is' := by
  induction as generalizing as' with
  | nil =>
    cases as' with
    | nil => exact ⟨rfl, List.cons.inj h⟩
    | cons a as' => exact absurd (List.cons.inj h).1 (hcut a)
  | cons a as ih =>
    cases as' with
    | nil => exact absurd (List.cons.inj h).1.symm (hcut' a)
    | cons a' as' =>
      obtain ⟨ha, hrest⟩ := List.cons.inj h
      obtain ⟨rfl, hcuts⟩ := ih hrest
      exact ⟨congrArg (· :: as) (Input.line.inj ha), hcuts⟩

theorem not_cut_early (hcut : ∀ text, cut ≠ .line text) (hlength : as.length < as'.length) :
    as.map .line ++ cut :: is ≠ as'.map .line ++ is' := by
  intro h
  induction as generalizing as' with
  | nil =>
    cases as' with
    | nil => cases hlength
    | cons a as' => exact hcut a (List.cons.inj h).1
  | cons a as ih =>
    cases as' with
    | nil => cases hlength
    | cons a' as' => exact ih (Nat.lt_of_succ_lt_succ hlength) (List.cons.inj h).2

theorem Round.inputs_cancelled (line : String) : (cancelled line as cut).inputs ++ is =
    .line line :: (as.map .line ++ cut :: is) := by
  rw [inputs, List.cons_append, List.append_assoc]
  rfl

theorem Round.inputs_inj {r r' : Round} (hr : r.Fits service) (hr' : r'.Fits service)
    (h : r.inputs ++ is = r'.inputs ++ is') : r = r' ∧ is = is' := by
  cases r with
  | interrupted =>
    cases r' with
    | interrupted => exact ⟨rfl, (List.cons.inj h).2⟩
    | _ => cases (List.cons.inj h).1
  | plain line =>
    cases r' with
    | interrupted => cases (List.cons.inj h).1
    | plain line' =>
      cases h
      exact ⟨rfl, rfl⟩
    | filled line' data' =>
      -- One line does not both open a form and open none.
      cases h
      exact absurd hr'.2 hr.2
    | cancelled line' as' cut' =>
      cases h
      exact absurd hr'.2.1 hr.2
  | filled line data =>
    cases r' with
    | interrupted => cases (List.cons.inj h).1
    | plain line' =>
      cases h
      exact absurd hr.2 hr'.2
    | filled line' data' =>
      obtain ⟨name, email, message⟩ := data
      obtain ⟨name', email', message'⟩ := data'
      cases h
      exact ⟨rfl, rfl⟩
    | cancelled line' as' cut' =>
      -- What cuts a form off is no answer to it.
      rw [inputs_cancelled] at h
      have hearly : as'.length < [data.name, data.email, data.message].length := hr'.2.2.1
      exact absurd (List.cons.inj h).2.symm (not_cut_early hr'.2.2.2 hearly)
  | cancelled line as cut =>
    cases r' with
    | interrupted => cases (List.cons.inj h).1
    | plain line' =>
      cases h
      exact absurd hr.2.1 hr'.2
    | filled line' data' =>
      rw [inputs_cancelled] at h
      have hearly : as.length < [data'.name, data'.email, data'.message].length := hr.2.2.1
      exact absurd (List.cons.inj h).2 (not_cut_early hr.2.2.2 hearly)
    | cancelled line' as' cut' =>
      rw [inputs_cancelled, inputs_cancelled] at h
      obtain ⟨hline, hrest⟩ := List.cons.inj h
      obtain ⟨rfl, rfl, rfl⟩ := answers_inj hr.2.2.2 hr'.2.2.2 hrest
      rw [Input.line.inj hline]
      exact ⟨rfl, rfl⟩

theorem Round.not_leaves {r : Round} (hr : r.Fits service) {last : Input} (hlast : Leaves last) :
    last :: is ≠ r.inputs ++ is' := by
  rintro h
  cases r with
  | interrupted =>
    cases (List.cons.inj h).1
    exact hlast
  | _ =>
    cases (List.cons.inj h).1
    exact hr.1 hlast

theorem rounds_inj {rs rs' : List Round} {last last' : Input} (hrs : ∀ r ∈ rs, r.Fits service)
    (hrs' : ∀ r ∈ rs', r.Fits service) (hlast : Leaves last) (hlast' : Leaves last')
    (h : rs.flatMap Round.inputs ++ last :: is = rs'.flatMap Round.inputs ++ last' :: is') :
    rs = rs' ∧ last = last' ∧ is = is' := by
  induction rs generalizing rs' with
  | nil =>
    cases rs' with
    | nil => exact ⟨rfl, List.cons.inj h⟩
    | cons r' rs' =>
      rw [List.flatMap_cons, List.append_assoc] at h
      exact absurd h (Round.not_leaves (hrs' r' List.mem_cons_self) hlast)
  | cons r rs ih =>
    obtain ⟨hr, htail⟩ := List.forall_mem_cons.1 hrs
    rw [List.flatMap_cons, List.append_assoc] at h
    cases rs' with
    | nil => exact absurd h.symm (Round.not_leaves hr hlast')
    | cons r' rs' =>
      obtain ⟨hr', htail'⟩ := List.forall_mem_cons.1 hrs'
      rw [List.flatMap_cons, List.append_assoc] at h
      obtain ⟨rfl, hrest⟩ := Round.inputs_inj hr hr' h
      obtain ⟨rfl, hends⟩ := ih htail htail' hrest
      exact ⟨rfl, hends⟩

theorem reading_unique {script : List Input} (reading reading' : Reading service script) :
    reading = reading' := by
  obtain ⟨rounds, last, unread, hsplit, hfits, hlast⟩ := reading
  obtain ⟨rounds', last', unread', hsplit', hfits', hlast'⟩ := reading'
  obtain ⟨rfl, rfl, rfl⟩ := rounds_inj hfits hfits' hlast hlast' (hsplit.symm.trans hsplit')
  rfl

end Unique

theorem Reading.play {settings : Settings} {channel : Option Channel} {d : Dialogue}
    (h : d.Waits (.standard settings channel))
    (hchannel : ∀ deliver ∈ channel, ∀ form, ∃ r, deliver form = .ok r) {script : List Input}
    (reading : Reading (.standard settings channel) script) (later : List Input) :
    d.play (reading.read ++ later) = .ok (reading.transcript d) := by
  obtain ⟨hrounds, hwaits⟩ := Round.play_rounds h hchannel reading.fits
  rw [Reading.read, List.append_assoc, Dialogue.play_append, hrounds]
  show ((Round.transcripts d reading.rounds).last.play ([reading.last] ++ later)).map _ = _
  rw [List.singleton_append, play_leaving hwaits.phase reading.leaves]
  rfl

/-- A dialogue over the standard service plays every script to its end, and takes it apart in the
one way there is: each input up to the one that ends the dialogue is read once, as a command or as
an answer to the form that the command before has opened, and none after it is. The history holds
the commands, and each form with all its answers is submitted once. -/
theorem interact_reading (w : Surroundings) (settings : Settings) (channel : Option Channel)
    (data : Option Snapshot) (theme : Theme) (script : List Input)
    (hchannel : ∀ deliver ∈ channel, ∀ form, ∃ r, deliver form = .ok r) :
    ∃ (reading : Reading (.standard settings channel) script) (t : Transcript),
      let session := Session.opened settings channel data theme w.now
      let first := Dialogue.start session settings.terminal.prompt w.colored
      (∀ other : Reading (.standard settings channel) script, other = reading) ∧
      interact w settings session script = .ok t ∧
      (∀ later, first.play (reading.read ++ later) = .ok t) ∧
      (∀ n, first.play (script ++ List.replicate (n + 2) .ending) = .ok t) ∧
      t = reading.transcript first ∧
      t.last.phase = .ended ∧
      t.prompts.length = reading.read.length ∧
      t.last.session.history =
        reading.lines.filterMap (fun line => Session.Op.entry? (.submit line)) ∧
      t.sent = (if channel.isSome then reading.filled.filter (·.problems.isEmpty) else []) ∧
      ∀ o loaded, o.command = none → Program.session w settings loaded.data = session →
        ∃ outcome, answer w o settings loaded script = .ok outcome ∧ outcome.code = 0 := by
  obtain ⟨reading⟩ := exists_reading (.standard settings channel) script
  have hfirst := Dialogue.waits_start settings channel data theme w.now settings.terminal.prompt
    w.colored
  have hplay := reading.play hfirst hchannel
  have hunread : script ++ [.ending, .ending] = reading.read ++ reading.unread := by
    rw [reading.split, Reading.read, List.append_assoc]
    rfl
  have hrun : interact w settings (.opened settings channel data theme w.now) script =
      .ok (reading.transcript (.start (.opened settings channel data theme w.now)
        settings.terminal.prompt w.colored)) := by
    rw [interact, Dialogue.run, hunread, hplay]
  obtain ⟨-, hlast⟩ := Round.play_rounds hfirst hchannel reading.fits
  obtain ⟨prompt, hprompt⟩ := Dialogue.exists_prompt hlast.phase
  refine ⟨reading, _, fun other => reading_unique other reading, hrun, hplay, ?_, rfl, rfl, ?_, ?_,
    ?_, ?_⟩
  · intro n
    have hmore : script ++ List.replicate (n + 2) Input.ending =
        script ++ [Input.ending, .ending] ++ List.replicate n .ending := by
      rw [List.append_assoc, List.replicate_succ, List.replicate_succ]
      rfl
    rw [hmore, hunread, List.append_assoc, hplay]
  · show ((Round.transcripts _ reading.rounds).prompts ++ Option.toList _).length = _
    rw [List.length_append, Round.length_prompts hfirst reading.fits, Reading.read,
      List.length_append]
    rw [hprompt]
    rfl
  · exact Round.history_transcripts hfirst reading.rounds
  · show (Round.transcripts _ reading.rounds).sent ++ [] = _
    rw [List.append_nil, Round.sent_transcripts hfirst]
    rfl
  · intro o loaded hcommand hsession
    rw [answer, hcommand]
    dsimp only
    rw [hsession, hrun]
    exact ⟨_, rfl, rfl⟩

def accepting : Channel := fun _ => .ok ⟨true, "Thanks!", []⟩

def quiet : Surroundings where
  files _ := .noFile .absent
  environment := []
  transport _ := .unreachable
  colored := false
  now := ⟨⟨2024, 2, 29, by decide⟩, 12, 0, 0, 0, none, by decide⟩

def visit : List Input := [.line "contact ", .line "exit", .interrupt, .interrupt, .line " ",
  .line "Contact", .line "Ann", .line "ann@example.com", .line "exit", .line " EXIT ", .line "help"]

theorem interact_reading_visit :
    ∃ (reading : Reading (.standard {} (some accepting)) visit) (t : Transcript),
      (∀ deliver ∈ some accepting, ∀ form, ∃ r, deliver form = .ok r) ∧
      interact quiet {} (.opened {} (some accepting) none .standard quiet.now) visit = .ok t ∧
      t.prompts.length = reading.read.length ∧ t.prompts.length = 10 ∧
      t.last.session.history = ["contact", "Contact"] ∧
      t.sent = [⟨"Ann", "ann@example.com", "exit"⟩] := by
  have hchannel : ∀ deliver ∈ some accepting, ∀ form, ∃ r, deliver form = .ok r := by
    rintro deliver ⟨⟩ form
    exact ⟨_, rfl⟩
  obtain ⟨reading, t, -, hrun, -, -, -, -, hprompts, -⟩ :=
    interact_reading quiet {} (some accepting) none .standard visit hchannel
  have hvisit : (interact quiet {} (.opened {} (some accepting) none .standard quiet.now)
      visit).toOption.map (fun t => (t.prompts.length, t.last.session.history, t.sent)) =
      some (10, ["contact", "Contact"], [⟨"Ann", "ann@example.com", "exit"⟩]) := by decide +kernel
  rw [hrun] at hvisit
  obtain ⟨hlength, hhistory, hsent⟩ : _ ∧ _ ∧ _ := by
    simpa only [Except.toOption, Option.map_some, Option.some.injEq, Prod.mk.injEq] using hvisit
  exact ⟨reading, t, hchannel, hrun, hprompts, hlength, hhistory, hsent⟩

end Folio.Program
