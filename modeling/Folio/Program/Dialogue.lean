import Folio.Session
/-!
The interactive loop as a machine that takes one input at a time: a command at the prompt, or an
answer of the contact form that the command before it has opened.
-/

namespace Folio.Program

open Folio.Contact Folio.Text

inductive Input where
  | line (text : String)
  | interrupt
  | ending
  deriving DecidableEq, Repr

inductive Phase where
  | command
  | filling (form : ContactForm) (answers : List (Field × String)) (next : Field)
      (later : List Field)
  | ended

structure Dialogue where
  session : Session
  prompt : String
  colored : Bool
  phase : Phase := .command

structure Turn where
  after : Dialogue
  written : String := ""
  sent : Option FormData := none

def greeting : String := "Type 'help' to see available commands. Type 'exit' to leave.\n"

def clearScreen : String := "\x1b[2J\x1b[H"

def farewells : List String := ["exit", "quit"]

def isFarewell (line : String) : Bool :=
  farewells.contains (lower (strip line))

def outputColor (o : Output) (theme : Theme) : Rgb :=
  if o.success then theme.palette.text else theme.palette.error

def rendered (o : Output) (theme : Theme) (colored : Bool) : String :=
  if colored && !o.text.isEmpty then (outputColor o theme).paint o.text else o.text

def dataOf (answers : List (Field × String)) : FormData :=
  let answer := fun f => (answers.lookup f).getD ""
  ⟨answer .name, answer .email, answer .message⟩

def resultLine (r : SubmitResult) : String :=
  (if r.success then "✓ " else "✗ ") ++ r.message ++ "\n"

def cancelled : String := "\nMessage cancelled.\n"

namespace Phase

def asking : Option ContactForm → Phase
  | none => command
  | some form =>
    match Field.all with
    | [] => command
    | f :: fs => filling form [] f fs

end Phase

namespace Dialogue

def start (session : Session) (prompt : String) (colored : Bool) : Dialogue :=
  { session, prompt, colored }

def prompt? (d : Dialogue) : Option String :=
  match d.phase with
  | .command =>
    some (if d.colored then d.session.theme.palette.accent.paint d.prompt else d.prompt)
  | .filling _ _ next _ => some s!"{next.label}: "
  | .ended => none

def command (d : Dialogue) (line : String) : Except Fault Turn :=
  if isFarewell line then .ok ⟨{ d with phase := .ended }, "", none⟩
  else match d.session.submit line with
    | (.error fault, _) => .error fault
    | (.ok none, s) => .ok ⟨{ d with session := s }, "", none⟩
    | (.ok (some o), s) =>
      if o.isClear then
        .ok ⟨{ d with session := s }, if d.colored then clearScreen else "", none⟩
      else
        .ok ⟨{ d with session := s, phase := .asking o.content.form? },
          rendered o s.theme d.colored ++ "\n", none⟩

def answer (d : Dialogue) (form : ContactForm) (answers : List (Field × String)) :
    List Field → Except Fault Turn
  | next :: later => .ok ⟨{ d with phase := .filling form answers next later }, "", none⟩
  | [] =>
    let submission := form.submit (dataOf answers)
    match submission.result with
    | .error fault => .error fault
    | .ok r => .ok ⟨{ d with phase := .command }, resultLine r, submission.sent⟩

def step (d : Dialogue) (i : Input) : Except Fault Turn :=
  match d.phase, i with
  | .command, .line text => d.command text
  | .command, .interrupt => .ok ⟨d, "\n", none⟩
  | .command, .ending => .ok ⟨{ d with phase := .ended }, "\n", none⟩
  | .filling form answers next later, .line text =>
    d.answer form (answers ++ [(next, text)]) later
  | .filling .., _ => .ok ⟨{ d with phase := .command }, cancelled, none⟩
  | .ended, _ => .ok ⟨d, "", none⟩

end Dialogue

structure Transcript where
  last : Dialogue
  written : String := ""
  prompts : List String := []
  sent : List FormData := []

def Transcript.after (prompt : String) (t : Turn) (rest : Transcript) : Transcript :=
  { rest with
    written := t.written ++ rest.written
    prompts := prompt :: rest.prompts
    sent := t.sent.toList ++ rest.sent }

namespace Dialogue

def play (d : Dialogue) : List Input → Except Fault Transcript
  | [] => .ok { last := d }
  | i :: is =>
    match d.prompt? with
    | none => .ok { last := d }
    | some prompt =>
      match d.step i with
      | .error fault => .error fault
      | .ok turn => (turn.after.play is).map (.after prompt turn)

def run (d : Dialogue) (script : List Input) : Except Fault Transcript :=
  d.play (script ++ [.ending, .ending])

end Dialogue

end Folio.Program
