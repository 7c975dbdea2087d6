import Folio.Document.Yaml.Quoted

namespace Folio.Document.Yaml

inductive Token where
  | blockSequence
  | blockMapping
  | blockEnd
  | flowSequence
  | flowMapping
  | flowSequenceEnd
  | flowMappingEnd
  | blockEntry
  | flowEntry
  | key
  | value
  | scalar (text : String) (plain : Bool)
  | documentStart
  | documentEnd
  deriving DecidableEq, Repr

/-- A token that may turn out to start a key: its position among the tokens and in the text. -/
structure Candidate where
  position : Nat
  needed : Bool
  index : Nat
  line : Nat
  column : Nat

structure Scan where
  cursor : Cursor
  bound : Nat
  tokens : List Token := []
  count : Nat := 0
  flow : Nat := 0
  indent : Int := -1
  indents : List Int := []
  allowKey : Bool := true
  candidates : List (Nat × Candidate) := []

namespace Scan

def insert (s : Scan) (position : Nat) (t : Token) : Scan :=
  { s with tokens := s.tokens.insertIdx (s.count - position) t, count := s.count + 1 }

def add (s : Scan) (t : Token) : Scan :=
  { s with tokens := t :: s.tokens, count := s.count + 1 }

def column (s : Scan) : Int :=
  s.cursor.column

def toNext : Nat → Scan → Scan
  | 0, s => s
  | fuel + 1, s =>
    let c := (s.cursor.takeWhile (· == ' ')).2
    let c := if c.peek == '#' then (c.takeWhile (!isBreakOrEnd ·)).2 else c
    match c.lineBreak with
    | (some _, c) =>
      toNext fuel { s with cursor := c, allowKey := if s.flow = 0 then true else s.allowKey }
    | (none, c) => { s with cursor := c }

def dropStale (s : Scan) : Option Scan :=
  let stale := fun (_, k) => k.line != s.cursor.line || 1024 < s.cursor.index - k.index
  if s.candidates.any fun entry => stale entry && entry.2.needed then none
  else some { s with candidates := s.candidates.filter fun entry => !stale entry }

def dropCandidate (s : Scan) : Option Scan :=
  match s.candidates.lookup s.flow with
  | some k =>
    if k.needed then none
    else some { s with candidates := s.candidates.filter (·.1 != s.flow) }
  | none => some s

def noteCandidate (s : Scan) : Option Scan :=
  if s.allowKey then
    (s.dropCandidate).map fun s =>
      let k : Candidate := ⟨s.count, s.flow = 0 && s.indent = s.column, s.cursor.index,
        s.cursor.line, s.cursor.column⟩
      { s with candidates := (s.flow, k) :: s.candidates }
  else some s

def closeBlocks (column : Int) : List Int → Scan → Scan
  | [], s => s
  | outer :: more, s =>
    if s.flow = 0 && column < s.indent then
      closeBlocks column more { s.add .blockEnd with indent := outer, indents := more }
    else s

def unwind (s : Scan) (column : Int) : Scan :=
  closeBlocks column s.indents s

def openBlock (s : Scan) (column : Int) (position : Nat) (t : Token) : Scan :=
  if s.indent < column then
    { s.insert position t with indents := s.indent :: s.indents, indent := column }
  else s

def openBlockHere (s : Scan) (t : Token) : Scan :=
  s.openBlock s.column s.count t

def skip (s : Scan) (n : Nat) : Scan :=
  { s with cursor := s.cursor.skip n }

def marker (s : Scan) (t : Token) : Option Scan :=
  ((s.unwind (-1)).dropCandidate).map fun s => { (s.add t).skip 3 with allowKey := false }

def openFlow (s : Scan) (t : Token) : Option Scan :=
  s.noteCandidate.map fun s => { (s.add t).skip 1 with flow := s.flow + 1, allowKey := true }

def closeFlow (s : Scan) (t : Token) : Option Scan :=
  if s.flow = 0 then none
  else s.dropCandidate.map fun s => { (s.add t).skip 1 with flow := s.flow - 1, allowKey := false }

def comma (s : Scan) : Option Scan :=
  s.dropCandidate.map fun s => { (s.add .flowEntry).skip 1 with allowKey := true }

def entry (s : Scan) : Option Scan :=
  if s.flow = 0 && !s.allowKey then none
  else
    let s := if s.flow = 0 then s.openBlockHere .blockSequence else s
    s.dropCandidate.map fun s => { (s.add .blockEntry).skip 1 with allowKey := true }

def explicitKey (s : Scan) : Option Scan :=
  if s.flow = 0 && !s.allowKey then none
  else
    let s := if s.flow = 0 then s.openBlockHere .blockMapping else s
    s.dropCandidate.map fun s => { (s.add .key).skip 1 with allowKey := s.flow = 0 }

def colon (s : Scan) : Option Scan :=
  match s.candidates.lookup s.flow with
  | some k =>
    let s := { s.insert k.position .key with candidates := s.candidates.filter (·.1 != s.flow) }
    let s := if s.flow = 0 then s.openBlock k.column k.position .blockMapping else s
    some { (s.add .value).skip 1 with allowKey := false }
  | none =>
    if s.flow = 0 && !s.allowKey then none
    else
      let s := if s.flow = 0 then s.openBlockHere .blockMapping else s
      s.dropCandidate.map fun s => { (s.add .value).skip 1 with allowKey := s.flow = 0 }

def quotedScalar (s : Scan) (double : Bool) : Except Flaw Scan :=
  (orMalformed s.noteCandidate).bind fun s =>
    (readQuoted double s.bound [] s.cursor.step).map fun (text, c) =>
      { s.add (.scalar text false) with cursor := c, allowKey := false }

def plainScalar (s : Scan) : Option Scan :=
  s.noteCandidate.map fun s =>
    let (text, broke, c) :=
      readPlain (0 < s.flow) (s.indent + 1) s.bound [] [] false s.cursor
    { s.add (.scalar text true) with cursor := c, allowKey := broke }

def startsPlain (s : Scan) : Bool :=
  let ch := s.cursor.peek
  let marks := ['-', '?', ':', ',', '[', ']', '\x7b', '\x7d', '#', '&', '*', '!', '|', '>', '\'',
    '"', '%', '@', Char.ofNat 96]
  (!isGap ch && !marks.contains ch) ||
    (!isGap (s.cursor.peek 1) && (ch == '-' || (s.flow = 0 && (ch == '?' || ch == ':'))))

def unquoted (s : Scan) : Option Scan :=
  let ch := s.cursor.peek
  let apart := isGap (s.cursor.peek 1)
  if s.cursor.atMarker '-' then s.marker .documentStart
  else if s.cursor.atMarker '.' then s.marker .documentEnd
  else if ch == '[' then s.openFlow .flowSequence
  else if ch == '\x7b' then s.openFlow .flowMapping
  else if ch == ']' then s.closeFlow .flowSequenceEnd
  else if ch == '\x7d' then s.closeFlow .flowMappingEnd
  else if ch == ',' then s.comma
  else if ch == '-' && apart then s.entry
  else if ch == '?' && (0 < s.flow || apart) then s.explicitKey
  else if ch == ':' && (0 < s.flow || apart) then s.colon
  else if s.startsPlain then s.plainScalar
  else none

def token (s : Scan) : Except Flaw Scan :=
  let ch := s.cursor.peek
  if ch == '\'' then s.quotedScalar false
  else if ch == '"' then s.quotedScalar true
  else orMalformed s.unquoted

def run : Nat → Scan → Except Flaw (List Token)
  | 0, _ => .error .malformed
  | fuel + 1, s =>
    match (s.toNext s.bound).dropStale with
    | none => .error .malformed
    | some s =>
      let s := s.unwind s.column
      if s.cursor.rest.isEmpty then
        orMalformed ((s.unwind (-1)).dropCandidate.map (·.tokens.reverse))
      else match s.token with
        | .error e => .error e
        | .ok s => run fuel s

end Scan

def tokens (text : String) : Except Flaw (List Token) :=
  let cs := text.toList
  if cs.all isPrintable then
    let cs := if cs.head? = some '\uFEFF' then cs.tail else cs
    Scan.run (cs.length + 1) { cursor := { rest := cs }, bound := cs.length + 1 }
  else .error .malformed

end Folio.Document.Yaml
