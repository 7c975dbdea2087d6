import Folio.Proofs.Terminal.Builtin
import Folio.Session

namespace Folio

open Folio.Command Folio.Contact Folio.Portfolio Folio.Terminal Folio.Text Folio.Time

/-- What a log shows: a line was answered, or the log was cleared. -/
inductive Event where
  | answered (line : String) (output : Output)
  | cleared

namespace Event

def clears : Event → Bool
  | answered _ output => output.isClear
  | cleared => true

def line? : Event → Option String
  | answered line _ => some line
  | cleared => none

def lines : Event → List Line
  | answered line output => [⟨.command, line, none⟩,
      ⟨if output.success then .output else .error, output.text, some output⟩]
  | cleared => []

def current (es : List Event) : List Event :=
  es.rtakeWhile (!·.clears)

theorem current_concat (es : List Event) (e : Event) :
    current (es ++ [e]) = if e.clears then [] else current es ++ [e] := by
  rw [current, List.rtakeWhile_concat]
  cases e.clears <;> rfl

theorem length_lines (es : List Event) :
    (es.flatMap lines).length = 2 * (es.filterMap line?).length := by
  induction es with
  | nil => rfl
  | cons e es ih =>
    rw [List.flatMap_cons, List.length_append, ih]
    cases e with
    | answered line output => simp [lines, line?, Nat.mul_add, Nat.add_comm]
    | cleared => exact Nat.zero_add _

theorem commands_lines (es : List Event) :
    (((es.flatMap lines).filter (·.kind = .command)).map (·.content)) = es.filterMap line? := by
  induction es with
  | nil => rfl
  | cons e es ih =>
    rw [List.flatMap_cons, List.filter_append, List.map_append, ih]
    cases e with
    | answered line output => cases hs : output.success <;> simp [lines, line?, hs]
    | cleared => rfl

end Event

namespace Session

inductive Op where
  | submit (line : String)
  | navigate (d : Direction)
  | complete (typed : String)
  | clear
  | replaceData (data : Option Snapshot)
  | tick (now : Moment)

def Op.entry? : Op → Option String
  | submit line => if (strip line).isEmpty then none else some (strip line)
  | _ => none

def step (s : Session) : Op → Session
  | .submit line => (s.submit line).2
  | .navigate d => (s.navigate d).2
  | .complete _ => s
  | .clear => s.clear
  | .replaceData data => { s with data := data }
  | .tick now => { s with now := now }

def event? (s : Session) : Op → Option Event
  | .submit line =>
    match (s.submit line).1 with
    | .ok (some output) => some (.answered (strip line) output)
    | _ => none
  | .clear => some .cleared
  | _ => none

def run (s : Session) (ops : List Op) : Session :=
  ops.foldl step s

def events (s : Session) : List Op → List Event
  | [] => []
  | op :: ops => (s.event? op).toList ++ events (s.step op) ops

theorem run_concat (s : Session) (ops : List Op) (op : Op) :
    s.run (ops ++ [op]) = (s.run ops).step op := by
  rw [run, List.foldl_append, ← run]
  rfl

theorem events_concat (s : Session) (ops : List Op) (op : Op) :
    s.events (ops ++ [op]) = s.events ops ++ ((s.run ops).event? op).toList := by
  induction ops generalizing s with
  | nil => simp [events, run]
  | cons o ops ih =>
    rw [List.cons_append, events, events, ih, List.append_assoc]
    rfl

theorem exists_navigate (s : Session) (d : Direction) :
    ∃ shown place, s.navigate d = (shown, { s with browsing := place }) := by
  unfold navigate
  dsimp only
  split
  · exact ⟨_, s.browsing, rfl⟩
  · split
    · exact ⟨_, _, rfl⟩
    · exact ⟨_, _, rfl⟩
    · exact ⟨_, s.browsing, rfl⟩
    · split <;> exact ⟨_, _, rfl⟩

theorem navigate_keeps (s : Session) (d : Direction) : (s.navigate d).2.service = s.service ∧
    (s.navigate d).2.log = s.log ∧ (s.navigate d).2.history = s.history := by
  obtain ⟨shown, place, h⟩ := s.exists_navigate d
  rw [h]
  exact ⟨rfl, rfl, rfl⟩

theorem submit_blank {s : Session} {line : String} (h : (strip line).isEmpty = true) :
    s.submit line = (.ok none, s) := by
  simp only [submit, if_pos h]

theorem exists_answered (s : Session) (r : Result) :
    ∃ log, s.answered r = { s with theme := r.theme, log := log } := by
  unfold answered
  split <;> exact ⟨_, rfl⟩

theorem answered_keeps (s : Session) (r : Result) :
    (s.answered r).service = s.service ∧ (s.answered r).history = s.history := by
  obtain ⟨log, h⟩ := s.exists_answered r
  rw [h]
  exact ⟨rfl, rfl⟩

theorem answered_log (s : Session) (line : String) (r : Result) :
    ((s.entered line).answered r).log = if r.output.isClear then []
      else s.log ++ (Event.answered line r.output).lines := by
  unfold answered
  split
  · rfl
  · simp [entered, Event.lines]

section Standard

variable {settings : Settings} {channel : Option Channel} {s : Session}

theorem submit_answered (hs : s.service = Service.standard settings channel) {line : String}
    (h : (strip line).isEmpty = false) : ∃ r,
      s.service.registry.execute (Invocation.parse (strip line)) (s.entered (strip line)).context =
        .ok r ∧
      s.submit line = (.ok (some r.output), (s.entered (strip line)).answered r) := by
  have hline : ¬ (strip line).isEmpty = true := by simp [h]
  obtain ⟨r, hr⟩ := execute_total settings channel (Invocation.parse (strip line))
    (s.entered (strip line)).context
  rw [← hs] at hr
  refine ⟨r, hr, ?_⟩
  have hexec : (s.entered (strip line)).service.registry.execute (Invocation.parse (strip line))
      (s.entered (strip line)).context = .ok r := hr
  simp only [submit, if_neg hline, hexec]

theorem step_spec (hs : s.service = Service.standard settings channel) (op : Op) :
    (s.step op).service = s.service ∧
    (s.step op).history = s.history ++ op.entry?.toList ∧
    (s.event? op).bind Event.line? = op.entry? ∧
    (s.step op).log = match s.event? op with
      | none => s.log
      | some e => if e.clears then [] else s.log ++ e.lines := by
  cases op with
  | submit line =>
    cases h : (strip line).isEmpty with
    | true => simp [step, event?, Op.entry?, submit_blank h, h]
    | false =>
      obtain ⟨r, -, hr⟩ := submit_answered hs h
      have hevent : s.event? (.submit line) = some (.answered (strip line) r.output) := by
        rw [event?, hr]
      obtain ⟨hservice, hhistory⟩ := (s.entered (strip line)).answered_keeps r
      rw [step, hevent, hr]
      refine ⟨hservice, ?_, ?_, answered_log s (strip line) r⟩
      · rw [hhistory]
        simp [entered, Op.entry?, h]
      · simp [Event.line?, Op.entry?, h]
  | navigate d =>
    obtain ⟨hservice, hlog, hhistory⟩ := s.navigate_keeps d
    exact ⟨hservice, hhistory.trans (List.append_nil s.history).symm, rfl, hlog⟩
  | complete typed => simp [step, event?, Op.entry?]
  | clear => simp [step, event?, Op.entry?, clear, Event.line?, Event.clears]
  | replaceData data => simp [step, event?, Op.entry?]
  | tick now => simp [step, event?, Op.entry?]

theorem run_spec (hs : s.service = Service.standard settings channel) (hlog : s.log = [])
    (ops : List Op) :
    (s.run ops).service = s.service ∧
    (s.run ops).history = s.history ++ ops.filterMap Op.entry? ∧
    (s.events ops).filterMap Event.line? = ops.filterMap Op.entry? ∧
    (s.run ops).log = (Event.current (s.events ops)).flatMap Event.lines := by
  -- from the right, since the last operation decides whether the earlier events still show
  induction ops using List.reverseRecOn with
  | nil => exact ⟨rfl, (List.append_nil s.history).symm, rfl, hlog⟩
  | append_singleton ops op ih =>
    obtain ⟨hservice, hhistory, hlines, hcurrent⟩ := ih
    obtain ⟨hservice', hhistory', hline, hnext⟩ := step_spec (hservice.trans hs) op
    rw [run_concat, events_concat, List.filterMap_append, List.filterMap_append]
    refine ⟨hservice'.trans hservice, ?_, ?_, ?_⟩
    · rw [hhistory', hhistory, List.append_assoc]
      cases hop : op.entry? <;> simp [hop]
    · rw [hlines]
      cases he : (s.run ops).event? op with
      | none => simp [← hline, he]
      | some e => cases hl : e.line? <;> simp [← hline, he, hl]
    · rw [hnext, hcurrent]
      cases he : (s.run ops).event? op with
      | none => simp
      | some e =>
        rw [Option.toList_some, Event.current_concat]
        by_cases hc : e.clears = true <;> simp [hc]

end Standard

def opened (settings : Settings) (channel : Option Channel) (data : Option Snapshot)
    (theme : Theme) (now : Moment) : Session :=
  { service := Service.standard settings channel, data, theme, now }

/-- After any operations the history holds every line entered, and the log a command line and the
answer to it for each line entered since the log was last cleared. -/
theorem run_opened (settings : Settings) (channel : Option Channel) (data : Option Snapshot)
    (theme : Theme) (now : Moment) (ops : List Op) :
    ((opened settings channel data theme now).run ops).history = ops.filterMap Op.entry? ∧
    ((opened settings channel data theme now).events ops).filterMap Event.line? =
      ops.filterMap Op.entry? ∧
    ((opened settings channel data theme now).run ops).log =
      (Event.current ((opened settings channel data theme now).events ops)).flatMap Event.lines ∧
    2 ∣ ((opened settings channel data theme now).run ops).log.length ∧
    (((opened settings channel data theme now).run ops).log.filter
      (·.kind = .command)).map (·.content) <:+
        ((opened settings channel data theme now).run ops).history := by
  obtain ⟨-, hhistory, hlines, hlog⟩ :=
    run_spec (s := opened settings channel data theme now) rfl rfl ops
  refine ⟨hhistory, hlines, hlog, ?_, ?_⟩
  · rw [hlog, Event.length_lines]
    exact Nat.dvd_mul_right 2 _
  · rw [hlog, Event.commands_lines, hhistory, ← hlines]
    exact (List.rtakeWhile_suffix _ _).filterMap _

end Session

end Folio
