namespace Folio.Document.Yaml

structure Cursor where
  rest : List Char
  column : Nat := 0
  line : Nat := 0
  index : Nat := 0

def ending : Char := '\x00'

def isBreak (c : Char) : Bool :=
  c == '\n' || c == '\r' || c == '\u0085' || c == '\u2028' || c == '\u2029'

def isBreakOrEnd (c : Char) : Bool :=
  isBreak c || c == ending

def isGap (c : Char) : Bool :=
  c == ' ' || c == '\t' || isBreakOrEnd c

def isPrintable (c : Char) : Bool :=
  let n := c.toNat
  n == 9 || n == 10 || n == 13 || (0x20 ≤ n && n ≤ 0x7E) || n == 0x85 || (0xA0 ≤ n && n ≤ 0xFFFD) ||
    0x10000 ≤ n

namespace Cursor

def ofText (s : String) : Cursor := { rest := s.toList }

def peek (c : Cursor) (n : Nat := 0) : Char :=
  c.rest.getD n ending

def step (c : Cursor) : Cursor :=
  match c.rest with
  | [] => c
  | ch :: rest =>
    if isBreak ch && !(ch == '\r' && rest.head? == some '\n') then
      ⟨rest, 0, c.line + 1, c.index + 1⟩
    else if ch == '\uFEFF' then ⟨rest, c.column, c.line, c.index + 1⟩
    else ⟨rest, c.column + 1, c.line, c.index + 1⟩

def skip (c : Cursor) : Nat → Cursor
  | 0 => c
  | n + 1 => c.step.skip n

def takeWhile (c : Cursor) (p : Char → Bool) : List Char × Cursor :=
  let taken := c.rest.takeWhile p
  (taken, c.skip taken.length)

def lineBreak (c : Cursor) : Option Char × Cursor :=
  match c.rest with
  | '\r' :: '\n' :: _ => (some '\n', c.skip 2)
  | ch :: _ =>
    if ch == '\u2028' || ch == '\u2029' then (some ch, c.step)
    else if isBreak ch then (some '\n', c.step)
    else (none, c)
  | [] => (none, c)

def atMarker (c : Cursor) (mark : Char) : Bool :=
  c.column == 0 && c.peek == mark && c.peek 1 == mark && c.peek 2 == mark && isGap (c.peek 3)

def atAnyMarker (c : Cursor) : Bool :=
  c.atMarker '-' || c.atMarker '.'

end Cursor

end Folio.Document.Yaml
