import Folio.Log.Journal
import Folio.Program.Run
import Folio.Time.Iso
import Std.Time.Format

namespace Folio.Program

open Folio.Log Folio.Time

def usage : String :=
  "usage: portfolio-terminal [-h] [--config PATH] [--data PATH | --data-url URL]\n" ++
  "                          [--theme THEME] [--log-level LEVEL] [-c COMMAND] [--version]\n"

def logFormat : String := "[%(levelname)-8s] [%(env_tag)s] %(name)s %(message)s"

def readEntry (path : String) : IO Entry := do
  try
    return .file (← IO.FS.readFile path)
  catch
    | .inappropriateType _ _ _ => return .noFile .folder
    | _ => return .noFile .absent

def readFiles (paths : List String) : IO Files := do
  let entries ← paths.mapM fun path => return (path, ← readEntry path)
  return fun path => (entries.lookup path).getD (.noFile .absent)

def readEnvironment : IO Environment := do
  let names := timeoutVariable :: textVariables.map TextVariable.name
  let values ← names.mapM fun name => return (← IO.getEnv name).map fun value => (name, value)
  return values.filterMap id

def readClock : IO Moment := do
  let seconds := (← Std.Time.Timestamp.now).toSecondsSinceUnixEpoch.val
  return (Moment.ofInt? seconds).getD (.midnight .first)

def note (s : LoggingSettings) (records : List Record) : IO Unit := do
  (← IO.getStderr).putStr (written logFormat s.level consoleMasks records)
  match s.file.filter (!·.isEmpty) with
  | some path =>
    IO.FS.withFile path .append fun h => h.putStr (written logFormat s.level fileMasks records)
  | none => return

def complain (message : String) (code : UInt32) : IO UInt32 := do
  (← IO.getStderr).putStr (message ++ "\n")
  return code

def readInput : IO Input := do
  let line ← (← IO.getStdin).getLine
  if line.isEmpty then return .ending
  else return .line (String.ofList (line.toList.filter (· != '\n')))

partial def converse (d : Dialogue) : IO UInt32 := do
  let out ← IO.getStdout
  match d.prompt? with
  | none => return 0
  | some prompt =>
    out.putStr prompt
    out.flush
    let input ← readInput
    match d.phase, input with
    | .command, .line text =>
      if !isFarewell text then
        note d.session.service.settings.logging (ofSubmission d.session text)
    | _, _ => pure ()
    match d.step input with
    | .error fault => complain fault.message 1
    | .ok turn =>
      out.putStr turn.written
      converse turn.after

def runOnce (session : Session) (line : String) : IO UInt32 := do
  note session.service.settings.logging (ofSubmission session line)
  match once session line with
  | .error fault => complain fault.message 1
  | .ok (written, code) =>
    (← IO.getStdout).putStr written
    return code.toUInt32

def serve (w : Surroundings) (o : Options) (s : Settings) : IO UInt32 := do
  match load w s with
  | .error b => complain b.message 1
  | .ok loaded =>
    (← IO.getStderr).putStr ((loaded.notice.map Notice.text).getD "")
    let session := session w s loaded.data
    note s.logging (ofService session.service)
    match o.command with
    | some line => runOnce session line
    | none =>
      (← IO.getStdout).putStr greeting
      converse (.start session s.terminal.prompt w.colored)

def launch (o : Options) : IO UInt32 := do
  let environment ← readEnvironment
  let files ← readFiles o.config.toList
  match o.settings files environment with
  | .error e =>
    if e.isFatal then complain e.message 1
    else
      (← IO.getStderr).putStr (Notice.settings e).text
      return 1
  | .ok s =>
    let files ← readFiles s.source.file.toList
    let colored ← (← IO.getStdout).isTty
    let now ← readClock
    serve { files, environment, transport := fun _ => .unreachable, colored, now } o s

end Folio.Program

open Folio.Program

def main (args : List String) : IO UInt32 := do
  match Options.ofArgs args with
  | .ok o => launch o
  | .error .help =>
    (← IO.getStdout).putStr usage
    return 0
  | .error .version =>
    (← IO.getStdout).putStr versionLine
    return 0
  | .error (.misuse m) => complain (usage ++ "portfolio-terminal: error: " ++ m.message) 2
