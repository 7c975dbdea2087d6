import Folio.Document.Json
import Folio.Document.Yaml.Cursor

namespace Folio.Document.Yaml

def namedEscape? : Char → Option Char
  | '0' => some '\x00'
  | 'a' => some '\x07'
  | 'b' => some '\x08'
  | 't' => some '\t'
  | '\t' => some '\t'
  | 'n' => some '\n'
  | 'v' => some '\x0b'
  | 'f' => some '\x0c'
  | 'r' => some '\r'
  | 'e' => some '\x1b'
  | ' ' => some ' '
  | '"' => some '"'
  | '\\' => some '\\'
  | '/' => some '/'
  | 'N' => some '\u0085'
  | '_' => some '\u00a0'
  | 'L' => some '\u2028'
  | 'P' => some '\u2029'
  | _ => none

def escapeWidth? : Char → Option Nat
  | 'x' => some 2
  | 'u' => some 4
  | 'U' => some 8
  | _ => none

def readBreaks : Nat → Cursor → Option (List Char × Cursor)
  | 0, _ => none
  | fuel + 1, c =>
    if c.atAnyMarker then none
    else
      let c := (c.takeWhile fun ch => ch == ' ' || ch == '\t').2
      match c.lineBreak with
      | (some b, c) => (readBreaks fuel c).map fun (bs, c) => (b :: bs, c)
      | (none, c) => some ([], c)

def folded (first : Char) (more : List Char) : List Char :=
  if first != '\n' then first :: more
  else if more.isEmpty then [' ']
  else more

def codedChars (digits rest : List Char) : Except Flaw (List Char × Nat) :=
  match Json.hex? digits with
  | none => .error .malformed
  | some code =>
    if code < 0x110000 then
      let (c, after) := Json.joinUnit code rest
      .ok ([c], rest.length - after.length)
    else if code < Nat.pow 2 31 then .error (.scalar .noSuchCharacter)
    else .error (.scalar .codeTooLarge)

def readEscape (fuel : Nat) (c : Cursor) : Except Flaw (List Char × Cursor) :=
  match namedEscape? c.peek, escapeWidth? c.peek with
  | some e, _ => .ok ([e], c.step)
  | none, some width =>
    let digits := c.step.rest.take width
    if digits.length = width then
      (codedChars digits (c.step.rest.drop width)).map fun (cs, more) =>
        (cs, c.step.skip (width + more))
    else .error .malformed
  | none, none =>
    match c.lineBreak with
    | (some _, next) => orMalformed (readBreaks fuel next)
    | (none, _) => .error .malformed

def readQuoted (double : Bool) : Nat → List Char → Cursor → Except Flaw (String × Cursor)
  | 0, _, _ => .error .malformed
  | fuel + 1, done, c =>
    let ch := c.peek
    if ch == ending then .error .malformed
    else if ch == '\'' && !double then
      if c.peek 1 == '\'' then readQuoted double fuel ('\'' :: done) (c.skip 2)
      else .ok (String.ofList done.reverse, c.step)
    else if ch == '"' && double then .ok (String.ofList done.reverse, c.step)
    else if ch == '\\' && double then
      match readEscape (fuel + 1) c.step with
      | .ok (cs, c) => readQuoted double fuel (cs.reverse ++ done) c
      | .error e => .error e
    else if ch == ' ' || ch == '\t' || isBreak ch then
      let (blanks, next) := c.takeWhile fun ch => ch == ' ' || ch == '\t'
      if next.peek == ending then .error .malformed
      else match next.lineBreak with
        | (some b, next) =>
          match readBreaks (fuel + 1) next with
          | some (bs, next) => readQuoted double fuel ((folded b bs).reverse ++ done) next
          | none => .error .malformed
        | (none, next) => readQuoted double fuel (blanks.reverse ++ done) next
    else readQuoted double fuel (ch :: done) c.step

def endsPlain (inFlow : Bool) (c : Cursor) : Bool :=
  let ch := c.peek
  let next := c.peek 1
  isGap ch ||
    (ch == ':' && (isGap next || (inFlow && [',', '[', ']', '\x7b', '\x7d'].contains next))) ||
    (inFlow && [',', '?', '[', ']', '\x7b', '\x7d'].contains ch)

def readWord (inFlow : Bool) : Nat → Cursor → List Char × Cursor
  | 0, c => ([], c)
  | fuel + 1, c =>
    if endsPlain inFlow c then ([], c)
    else
      let (cs, next) := readWord inFlow fuel c.step
      (c.peek :: cs, next)

def plainBreaks : Nat → Cursor → Option (List Char) × Cursor
  | 0, c => (some [], c)
  | fuel + 1, c =>
    if c.peek == ' ' then plainBreaks fuel c.step
    else match c.lineBreak with
      | (some b, next) =>
        if next.atAnyMarker then (none, next)
        else
          let (bs, last) := plainBreaks fuel next
          (bs.map (b :: ·), last)
      | (none, c) => (some [], c)

def plainGap (fuel : Nat) (c : Cursor) : Option (List Char) × Bool × Cursor :=
  let (spaces, c) := c.takeWhile (· == ' ')
  match c.lineBreak with
  | (some b, c) =>
    if c.atAnyMarker then (none, true, c)
    else
      let (bs, c) := plainBreaks fuel c
      (bs.map (folded b), true, c)
  | (none, c) => (if spaces.isEmpty then none else some spaces, false, c)

/-- Reads a plain scalar that reaches over lines indented by `indent` at least; `done` is what has
been read of it, its last character first, and the fuel exceeds the length of the text that is left.
The second result tells whether a line break was passed after the last word. -/
def readPlain (inFlow : Bool) (indent : Int) :
    Nat → List Char → List Char → Bool → Cursor → String × Bool × Cursor
  | 0, _, done, broke, c => (String.ofList done.reverse, broke, c)
  | fuel + 1, gap, done, broke, c =>
    if c.peek == '#' then (String.ofList done.reverse, broke, c)
    else
      let (word, c) := readWord inFlow (fuel + 1) c
      if word.isEmpty then (String.ofList done.reverse, broke, c)
      else
        let done := word.reverse ++ gap.reverse ++ done
        match plainGap (fuel + 1) c with
        | (some gap, broke, c) =>
          if c.peek == '#' || (!inFlow && (c.column : Int) < indent) then
            (String.ofList done.reverse, broke, c)
          else readPlain inFlow indent fuel gap done broke c
        | (none, broke, c) => (String.ofList done.reverse, broke, c)

end Folio.Document.Yaml
