import Folio.Settings.Layers
import Folio.Text.Search

namespace Folio.Program

open Folio.Number Folio.Text

inductive Choice where
  | help
  | config
  | data
  | dataUrl
  | theme
  | logLevel
  | command
  | version
  deriving DecidableEq, Repr

namespace Choice

def all : List Choice := [help, config, data, dataUrl, theme, logLevel, command, version]

def long : Choice → String
  | help => "--help"
  | config => "--config"
  | data => "--data"
  | dataUrl => "--data-url"
  | theme => "--theme"
  | logLevel => "--log-level"
  | command => "--command"
  | version => "--version"

def short? : Choice → Option Char
  | help => some 'h'
  | command => some 'c'
  | _ => none

def shown (c : Choice) : String :=
  match c.short? with
  | some letter => s!"-{letter}/{c.long}"
  | none => c.long

def takesValue : Choice → Bool
  | help => false
  | version => false
  | _ => true

def ofShort? (letter : Char) : Option Choice :=
  all.find? (·.short? = some letter)

end Choice

inductive Misuse where
  | ambiguous (arg : String) (choices : List Choice)
  | noValue (choice : Choice)
  | unwantedValue (choice : Choice) (value : String)
  | unknownValue (choice : Choice) (value : String) (values : List String)
  | conflict (choice other : Choice)
  | unrecognized (args : List String)
  deriving DecidableEq, Repr

def Misuse.message : Misuse → String
  | ambiguous arg choices =>
    s!"ambiguous option: {arg} could match {listed (choices.map Choice.long)}"
  | noValue choice => s!"argument {choice.shown}: expected one argument"
  | unwantedValue choice value =>
    s!"argument {choice.shown}: ignored explicit argument {quoted value}"
  | unknownValue choice value values =>
    s!"argument {choice.shown}: invalid choice: {quoted value} (choose from {listed values})"
  | conflict choice other => s!"argument {choice.shown}: not allowed with argument {other.shown}"
  | unrecognized args => "unrecognized arguments: " ++ joined " " args

def versionLine : String := "portfolio-terminal 0.1.0\n"

inductive Departure where
  | help
  | version
  | misuse (reason : Misuse)
  deriving DecidableEq, Repr

structure Options where
  config : Option String := none
  data : Option String := none
  dataUrl : Option String := none
  theme : Option Theme := none
  logLevel : Option LogLevel := none
  command : Option String := none
  deriving DecidableEq, Repr

inductive Argument where
  | word
  | separator
  | options (found : List Choice) (value : Option String)
  | cluster (choice : Choice) (rest : List Char)
  | unknown
  deriving DecidableEq, Repr

def splitValue (cs : List Char) : List Char × Option (List Char) :=
  match cs.dropWhile (· != '=') with
  | _ :: value => (cs.takeWhile (· != '='), some value)
  | [] => (cs, none)

/-- Digits of any script, which may have a point before the last run of them; a line break may
stand at the end. -/
def isNumeral (cs : List Char) : Bool :=
  let body := if cs.getLast? = some '\n' then cs.dropLast else cs
  let whole := body.takeWhile isDecimalDigit
  match body.dropWhile isDecimalDigit with
  | [] => !whole.isEmpty
  | c :: fraction => c == '.' && !fraction.isEmpty && fraction.all isDecimalDigit

def unmatched (cs : List Char) : Argument :=
  if isNumeral cs.tail || cs.contains ' ' then .word else .unknown

def longArgument (cs : List Char) : Argument :=
  let (name, value) := splitValue cs
  let value := value.map String.ofList
  match Choice.all.filter (·.long.toList = name) with
  | [] =>
    match Choice.all.filter fun c => name.isPrefixOf c.long.toList with
    | [] => unmatched cs
    | found => .options found value
  | found => .options found value

def Argument.ofText (arg : String) : Argument :=
  let cs := arg.toList
  match cs with
  | ['-', '-'] => .separator
  | '-' :: '-' :: _ => longArgument cs
  | '-' :: letter :: rest =>
    match Choice.ofShort? letter with
    | none => unmatched cs
    | some c =>
      match rest with
      | [] => .options [c] none
      | ['='] => .options [c] (some "")
      | '=' :: value => .cluster c value
      | rest => .cluster c rest
  | _ => .word

def nextWord? : List String → Option String
  | arg :: _ => if Argument.ofText arg = .word then some arg else none
  | [] => none

namespace Options

/-- Gives an option its value. A snapshot comes from a file or from an address. -/
def set (o : Options) (c : Choice) (value : String) : Except Misuse Options :=
  match c with
  | .config => .ok { o with config := some value }
  | .data =>
    if o.dataUrl.isSome then .error (.conflict c .dataUrl) else .ok { o with data := some value }
  | .dataUrl =>
    if o.data.isSome then .error (.conflict c .data) else .ok { o with dataUrl := some value }
  | .theme =>
    match Theme.all.find? (·.name = value) with
    | some theme => .ok { o with theme := some theme }
    | none => .error (.unknownValue c value Theme.names)
  | .logLevel =>
    match LogLevel.named? (upper value) with
    | some level => .ok { o with logLevel := some level }
    | none => .error (.unknownValue c (upper value) (LogLevel.all.map LogLevel.name))
  | .command => .ok { o with command := some value }
  | .help => .ok o
  | .version => .ok o

def helpCluster (rest : List String) : List Char → Departure
  | [] => .help
  | letter :: more =>
    match Choice.ofShort? letter with
    | some .help => helpCluster rest more
    | some c => if more.isEmpty && (nextWord? rest).isNone then .misuse (.noValue c) else .help
    | none => .misuse (.unwantedValue .help (String.ofList (letter :: more)))

def read (o : Options) (extra : List String) : List String → Except Departure Options
  | [] => if extra.isEmpty then .ok o else .error (.misuse (.unrecognized extra))
  | arg :: rest =>
    match Argument.ofText arg with
    | .word => read o (extra ++ [arg]) rest
    | .unknown => read o (extra ++ [arg]) rest
    | .separator => .error (.misuse (.unrecognized (extra ++ arg :: rest)))
    | .cluster c letters =>
      if c.takesValue then
        match o.set c (String.ofList letters) with
        | .ok o => read o extra rest
        | .error m => .error (.misuse m)
      else .error (helpCluster rest letters)
    | .options [.help] none => .error .help
    | .options [.version] none => .error .version
    | .options [c] (some value) =>
      if c.takesValue then
        match o.set c value with
        | .ok o => read o extra rest
        | .error m => .error (.misuse m)
      else .error (.misuse (.unwantedValue c value))
    | .options [c] none =>
      match rest with
      | [] => .error (.misuse (.noValue c))
      | value :: rest =>
        if Argument.ofText value = .word then
          match o.set c value with
          | .ok o => read o extra rest
          | .error m => .error (.misuse m)
        else .error (.misuse (.noValue c))
    | .options found _ => .error (.misuse (.ambiguous arg found))

def ambiguity? (args : List String) : Option Misuse :=
  (args.takeWhile (Argument.ofText · != .separator)).findSome? fun arg =>
    match Argument.ofText arg with
    | .options (a :: b :: more) _ => some (.ambiguous arg (a :: b :: more))
    | _ => none

def ofArgs (args : List String) : Except Departure Options :=
  match ambiguity? args with
  | some m => .error (.misuse m)
  | none => read {} [] args

/-- Lays the options over settings, unchecked. A source given here replaces any other. -/
def apply (o : Options) (s : Settings) : Settings :=
  let source := match o.dataUrl, o.data with
    | some url, _ => { s.source with url := some url, file := none }
    | none, some path => { s.source with file := some path, url := none }
    | none, none => s.source
  { s with
    terminal := { s.terminal with theme := o.theme.getD s.terminal.theme }
    logging := { s.logging with level := o.logLevel.getD s.logging.level }
    source := source }

def settings (o : Options) (files : Files) (env : Environment) : Except SettingsError Settings :=
  (Settings.load (.ofPath files o.config) env).map o.apply

end Options

end Folio.Program
